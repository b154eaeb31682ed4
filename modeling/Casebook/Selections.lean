import Casebook.Capture

/-!
# Casebook.Selections

The captures of one match: at most one without a name, and any number under names.

* `Selections.get?_record` — the last capture under a key is the one that counts;
* `Selections.get?_merge` — merging writes one set of captures over another;
* `Selections.contains_record`, `contains_merge` — the same for the keys alone;
* `Selections.ext_get?` — selections are determined by what they hold under each key;
* `Selections.argument` — what a case is given of them.
-/

namespace Casebook

/-- Where a capture is recorded. -/
inductive SelectionKey where
  | anonymous
  | named (name : String)
deriving DecidableEq

/-- A key as it is shown. -/
def SelectionKey.label : SelectionKey → String
  | anonymous => "<anonymous>"
  | named name => name

/-- Captures by key. -/
structure Selections where
  anonymous : Option Capture := none
  named : Table Capture := ∅
deriving Inhabited

namespace Selections

instance : EmptyCollection Selections := ⟨{}⟩

def get? (s : Selections) : SelectionKey → Option Capture
  | .anonymous => s.anonymous
  | .named name => s.named.get? name

def contains (s : Selections) (key : SelectionKey) : Bool := (s.get? key).isSome

/-- Record a capture, replacing the one under the same key. -/
def record (s : Selections) (key : SelectionKey) (c : Capture) : Selections :=
  match key with
  | .anonymous => { s with anonymous := some c }
  | .named name => { s with named := s.named.insert name c }

/-- Every capture of `t` written over `s`. -/
def merge (s t : Selections) : Selections where
  anonymous := t.anonymous <|> s.anonymous
  named := s.named.merge t.named

def isEmpty (s : Selections) : Bool := s.anonymous.isNone && s.named.isEmpty

/-- How many keys hold a capture. -/
def size (s : Selections) : Nat := s.named.size + if s.anonymous.isSome then 1 else 0

/-- Captures recorded one after the other. -/
def ofList (captures : List (SelectionKey × Capture)) : Selections :=
  captures.foldl (fun s kc => s.record kc.1 kc.2) ∅

/-- What a case is handed: the anonymous capture if there is one, else a record of the named
ones, else the subject itself. -/
def argument (s : Selections) (subject : Value) : Capture :=
  match s.anonymous with
  | some c => c
  | none => if s.named.isEmpty then .part subject else .record s.named.pairs

/-- The same keys, with structurally equal captures. -/
def equals (s t : Selections) : Bool :=
  (match s.anonymous, t.anonymous with
    | some c, some d => c.equals d
    | none, none => true
    | _, _ => false) &&
  s.named.size == t.named.size &&
  (s.named.pairs.zip t.named.pairs).all fun p => p.1.1 == p.2.1 && p.1.2.equals p.2.2

/-! ## what is held under each key -/

@[simp] theorem get?_empty (key : SelectionKey) : (∅ : Selections).get? key = none := by
  cases key <;> rfl

/-- What is captured under a key replaces what was held under it, and nothing else. -/
theorem get?_record (s : Selections) (key key' : SelectionKey) (c : Capture) :
    (s.record key c).get? key' = if key = key' then some c else s.get? key' := by
  cases key <;> cases key' <;> simp [record, get?, Table.get?_insert]

/-- Selections are determined by what they hold under each key. -/
theorem ext_get? {s t : Selections} (h : ∀ key, s.get? key = t.get? key) : s = t := by
  have ha : s.anonymous = t.anonymous := h .anonymous
  have hn : s.named = t.named := Table.ext_get? fun name => h (.named name)
  cases s; cases t; simp_all

/-- Of two captures under one key the later one stays. -/
theorem get?_merge (s t : Selections) (key : SelectionKey) :
    (s.merge t).get? key = (t.get? key <|> s.get? key) := by
  cases key with
  | anonymous => rfl
  | named name => exact Table.get?_merge s.named t.named name

/-- A key that is held always has a capture. -/
theorem get?_eq_none_iff {s : Selections} {key : SelectionKey} :
    s.get? key = none ↔ ¬ s.contains key = true := Option.not_isSome_iff_eq_none.symm

@[simp] theorem contains_empty (key : SelectionKey) : (∅ : Selections).contains key = false := by
  simp [contains]

theorem contains_record (s : Selections) (key key' : SelectionKey) (c : Capture) :
    (s.record key c).contains key' = (decide (key' = key) || s.contains key') := by
  unfold contains
  rw [get?_record]
  by_cases h : key = key'
  · simp [h]
  · simp [h, Ne.symm h]

/-- Merging loses no key and adds none. -/
theorem contains_merge (s t : Selections) (key : SelectionKey) :
    (s.merge t).contains key = (t.contains key || s.contains key) := by
  unfold contains
  rw [get?_merge]
  cases t.get? key <;> simp

end Selections

end Casebook

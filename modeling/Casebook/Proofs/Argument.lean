import Casebook.Case.Draft
import Casebook.Proofs.RecordedKeys
import Casebook.Proofs.SelectionRules

/-!
# Casebook.Proofs.Argument

What a case is handed.  The rules of selection, checked when a case is built, make sure that no
capture is lost on the way: a match has either one capture without a name, or named ones.

* `toValue_record` — the object that stands for named captures;
* `argument_of_anonymous`, `argument_of_named`, `argument_of_empty` — the three arguments;
* `contains_not_mixed`, `argument_cases` — what a pattern that keeps the rules captures, and which
  of the arguments it is;
* `match?_eq_some` — a case matches with the captures of its first alternative that matches;
* `argument_keeps_captures` — the argument of a case, for every declaration that is accepted;
* `argument_eq_subject_of_anonymous` — the subject itself may also come as a capture.
-/

namespace Casebook

universe u

/-! ## records -/

namespace Capture

/-- A record becomes an object with the same names. -/
theorem keys_buildFields (fields : Props Capture) (next : Nat) :
    Props.keys (buildFields fields next).1 = Props.keys fields := by
  induction fields generalizing next with
  | nil => rfl
  | cons f fields ih =>
      obtain ⟨name, c⟩ := f
      exact congrArg (name :: ·) (ih _)

/-- Under each name the object holds what becomes of the capture there, whichever identities come to
it. -/
theorem lookup_buildFields {fields : Props Capture} {name : String} {c : Capture}
    (h : Props.lookup name fields = some c) (next : Nat) :
    ∃ next', Props.lookup name (buildFields fields next).1 = some (c.build next').1 := by
  induction fields generalizing next with
  | nil => cases h
  | cons f fields ih =>
      obtain ⟨name', d⟩ := f
      rw [Props.lookup_cons] at h
      rw [buildFields, Props.lookup_cons]
      by_cases hname : name' = name
      · rw [if_pos hname] at h ⊢
        obtain rfl := Option.some.inj h
        exact ⟨next, rfl⟩
      · rw [if_neg hname] at h ⊢
        exact ih h _

/-- Properties with the names of some fields, each of which holds a value that stands for the
capture in its field. -/
structure Holds (fields : Props Capture) (props : Props Value) : Prop where
  keys_eq : props.keys = fields.keys
  lookup_eq : ∀ name c, fields.lookup name = some c →
    ∃ next, props.lookup name = some (c.build next).1

/-- A record stands for an object that holds its fields. -/
theorem toValue_record (fields : Props Capture) :
    ∃ identity props, (record fields).toValue = .object identity props ∧ Holds fields props :=
  ⟨_, _, rfl, keys_buildFields fields _, fun _ _ h => lookup_buildFields h _⟩

end Capture

/-! ## the argument -/

namespace Selections

variable {s : Selections}

/-- A capture without a name is handed over as it is. -/
theorem argument_of_anonymous {c : Capture} (h : s.get? .anonymous = some c) (subject : Value) :
    s.argument subject = c := by
  have ha : s.anonymous = some c := h
  rw [argument, ha]

/-- Named captures are handed over as one record. -/
theorem argument_of_named (ha : s.get? .anonymous = none) {name : String}
    (hn : s.contains (.named name) = true) (subject : Value) :
    s.argument subject = .record s.named.pairs := by
  have hanonymous : s.anonymous = none := ha
  have hne : s.named.isEmpty = false := by
    rw [Table.isEmpty, List.isEmpty_eq_false_iff]
    intro he
    rw [contains, get?, Table.get?, he] at hn
    cases hn
  rw [argument, hanonymous]
  simp only [hne, Bool.false_eq_true, if_false]

/-- Without captures the subject is handed over. -/
theorem argument_of_empty (h : ∀ k, s.contains k = false) (subject : Value) :
    s.argument subject = .part subject := by
  have he : s = ∅ := by
    apply ext_get?
    intro k
    rw [get?_empty, get?_eq_none_iff, h k]
    exact Bool.false_ne_true
  rw [he]
  rfl

/-- The captures under the names among some keys, each name once. -/
structure Fields (s : Selections) (keys : List SelectionKey) (fields : Props Capture) : Prop where
  sorted : fields.Sorted
  mem_keys_iff : ∀ name, name ∈ fields.keys ↔ .named name ∈ keys
  lookup_eq : ∀ name, fields.lookup name = s.get? (.named name)

/-- What is captured under names makes up the fields of the record. -/
theorem fields_named {keys : List SelectionKey} (h : ∀ k, s.contains k = true ↔ k ∈ keys) :
    s.Fields keys s.named.pairs where
  sorted := s.named.sorted
  mem_keys_iff name := Props.mem_keys_iff.trans (h (.named name))
  lookup_eq _ := rfl

end Selections

/-! ## the captures of a case -/

namespace Pattern

open Selections

/-- A pattern that keeps the rules has no key, the anonymous one by itself, or named ones. -/
theorem keys_cases {p : Pattern} (h : p.fault? = none) :
    p.keys = [] ∨ p.keys = [.anonymous] ∨ .anonymous ∉ p.keys ∧ ∃ name, .named name ∈ p.keys := by
  rcases keys_of_fault?_eq_none h with hkeys | ha
  · exact .inr (.inl hkeys)
  · cases hkeys : p.keys with
    | nil => exact .inl rfl
    | cons k ks =>
        rw [hkeys] at ha
        refine .inr (.inr ⟨ha, ?_⟩)
        cases k with
        | anonymous => exact absurd List.mem_cons_self ha
        | named name => exact ⟨name, List.mem_cons_self⟩

/-- A pattern that keeps the rules never captures both without a name and under one. -/
theorem contains_not_mixed {p : Pattern} (h : p.fault? = none) {v : Value} {s : Selections}
    (hs : p.match? v = some s) (ha : s.contains .anonymous = true) (name : String) :
    s.contains (.named name) = false := by
  rw [contains_match? hs] at ha
  have hn : ¬ s.contains (.named name) = true := by
    rw [contains_match? hs]
    exact named_not_mem_keys h ha name
  exact Bool.eq_false_iff.mpr hn

/-- What is handed over for a pattern that keeps the rules. -/
theorem argument_cases {p : Pattern} (h : p.fault? = none) {v : Value} {s : Selections}
    (hs : p.match? v = some s) :
    p.keys = [] ∧ s.argument v = .part v ∨
      p.keys = [.anonymous] ∧ s.get? .anonymous = some (s.argument v) ∨
      (.anonymous ∉ p.keys ∧ ∃ name, .named name ∈ p.keys) ∧
        ∃ fields, s.argument v = .record fields ∧ s.Fields p.keys fields := by
  have hkeys : ∀ k, s.contains k = true ↔ k ∈ p.keys := contains_match? hs
  rcases keys_cases h with hnone | hanonymous | ⟨hnot, name, hname⟩
  · refine .inl ⟨hnone, argument_of_empty (fun k => Bool.eq_false_iff.mpr fun hk => ?_) v⟩
    rw [hkeys, hnone] at hk
    cases hk
  · have hsome : s.contains .anonymous = true := (hkeys _).mpr (by simp [hanonymous])
    obtain ⟨capture, hcapture⟩ := Option.isSome_iff_exists.mp hsome
    refine .inr (.inl ⟨hanonymous, ?_⟩)
    rw [hcapture, argument_of_anonymous hcapture v]
  · have hnone : s.get? .anonymous = none :=
      get?_eq_none_iff.mpr fun ha => hnot ((hkeys _).mp ha)
    exact .inr (.inr ⟨⟨hnot, name, hname⟩, s.named.pairs,
      argument_of_named hnone ((hkeys _).mpr hname) v, fields_named hkeys⟩)

/-- The subject is handed over if there is no key, or where it was captured without a name. -/
theorem argument_eq_subject_iff {p : Pattern} (h : p.fault? = none) {v : Value} {s : Selections}
    (hs : p.match? v = some s) :
    s.argument v = .part v ↔
      p.keys = [] ∨ p.keys = [.anonymous] ∧ s.get? .anonymous = some (.part v) := by
  rcases argument_cases h hs with ⟨hnone, harg⟩ | ⟨hanonymous, hget⟩ | ⟨⟨hnot, name, hname⟩, hrec⟩
  · exact ⟨fun _ => .inl hnone, fun _ => harg⟩
  · rw [hget, hanonymous]
    simp
  · obtain ⟨fields, harg, -⟩ := hrec
    rw [harg]
    constructor
    · intro he
      cases he
    · rintro (he | ⟨he, -⟩)
      · rw [he] at hname
        cases hname
      · rw [he] at hnot
        exact absurd List.mem_cons_self hnot

end Pattern

namespace Case

variable {α : Type u}

/-- A case matches with the captures of its first alternative that matches. -/
theorem match?_eq_some {c : Case α} {subject : Value} {s : Selections}
    (h : c.match? subject = some s) :
    ∃ before p after, c.patterns = before ++ p :: after ∧ p.match? subject = some s ∧
      ∀ q ∈ before, q.match? subject = none := by
  unfold match? at h
  split at h
  case h_1 t ht =>
      split at h
      case isTrue =>
          obtain rfl := Option.some.inj h
          exact List.findSome?_eq_some_iff.mp ht
      case isFalse => cases h
  case h_2 => cases h

end Case

namespace CaseDraft

variable {α : Type u}

/-- **The argument of a case keeps every capture.**  Whatever an accepted declaration looks like,
its case matches with the captures of the first alternative that does.  These are under the keys of
that alternative, never under the anonymous key and a name together.  The argument is the capture
under the anonymous key, or an object of the captures under the names, or the subject if there are
no keys; apart from that last case it is the subject only where the subject was captured. -/
theorem argument_keeps_captures {d : CaseDraft α} {c : Case α} (h : d.build = .ok c)
    {subject : Value} {s : Selections} (hs : c.match? subject = some s) :
    ∃ before p after,
      d.alternatives = before ++ p :: after ∧ p.match? subject = some s ∧
      (∀ q ∈ before, q.match? subject = none) ∧
      (∀ k, s.contains k = true ↔ k ∈ p.keys) ∧
      (¬ ∃ name, s.contains .anonymous = true ∧ s.contains (.named name) = true) ∧
      (p.keys = [] ∧ s.argument subject = .part subject ∨
        p.keys = [.anonymous] ∧ s.get? .anonymous = some (s.argument subject) ∨
        (.anonymous ∉ p.keys ∧ ∃ name, .named name ∈ p.keys) ∧
          ∃ fields, s.argument subject = .record fields ∧ s.Fields p.keys fields) ∧
      (∀ fields, s.argument subject = .record fields →
        ∃ identity props, (s.argument subject).toValue = .object identity props ∧
          Capture.Holds fields props) ∧
      (s.argument subject = .part subject ↔
        p.keys = [] ∨ p.keys = [.anonymous] ∧ s.get? .anonymous = some (.part subject)) := by
  obtain ⟨-, hpatterns, -, -⟩ := eq_of_build h
  obtain ⟨before, p, after, hsplit, hp, hbefore⟩ := Case.match?_eq_some hs
  have hrules : p.fault? = none := c.valid p (by simp [hsplit])
  refine ⟨before, p, after, hpatterns ▸ hsplit, hp, hbefore, Pattern.contains_match? hp, ?_,
    Pattern.argument_cases hrules hp, ?_, Pattern.argument_eq_subject_iff hrules hp⟩
  · rintro ⟨name, ha, hn⟩
    rw [Pattern.contains_not_mixed hrules hp ha name] at hn
    cases hn
  · intro fields hfields
    rw [hfields]
    exact Capture.toValue_record fields

/-- Two alternatives: an array of one value under a name, and a boolean or an absent value under
names of their own. -/
def namedParts : CaseDraft Nat where
  id := ⟨.withPatterns, "parts"⟩
  patterns := [.tuple [.select (.named "only") none],
    .any [.select (.named "flag") (some (.kind .boolean)), .optional (.select (.named "x") none)]]
  constant := some 0

/-- The second alternative matches `true`, with a capture of nothing under the other name. -/
theorem argument_keeps_captures_namedParts :
    ∃ c s, namedParts.build = .ok c ∧ c.match? (.bool true) = some s ∧
      s.argument (.bool true) = .record [("flag", .part (.bool true)), ("x", .undefined)] ∧
      ∃ before p after, namedParts.alternatives = before ++ p :: after ∧
        p.match? (.bool true) = some s ∧ ∀ k, s.contains k = true ↔ k ∈ p.keys := by
  obtain ⟨before, p, after, hsplit, hp, -, hkeys, -⟩ :=
    @argument_keeps_captures Nat namedParts _ rfl (.bool true) _ rfl
  exact ⟨_, _, rfl, rfl, rfl, before, p, after, hsplit, hp, hkeys⟩

/-- A case that captures the whole subject without a name. -/
def wholeSubject : CaseDraft Nat where
  id := ⟨.withPatterns, "whole"⟩
  patterns := [.select .anonymous none]
  constant := some 0

/-- The argument can be the subject itself although the alternative has a key. -/
theorem argument_eq_subject_of_anonymous :
    ∃ c s, wholeSubject.build = .ok c ∧ c.patterns = [.select .anonymous none] ∧
      c.match? (.array 0 []) = some s ∧ (s.argument (.array 0 [])).isSame (.array 0 []) = true ∧
      ¬ (s.argument (.array 0 []) = .part (.array 0 []) ↔
        (Pattern.select .anonymous none).keys = []) := by
  refine ⟨_, _, rfl, rfl, rfl, rfl, fun h => ?_⟩
  have hkeys : (Pattern.select .anonymous none).keys = [] := h.mp rfl
  cases hkeys

end CaseDraft

end Casebook

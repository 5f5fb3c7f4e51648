import Mathlib.Data.List.Basic

/-!
# Prefix codes

Streams of words of a code in which no word begins another one.

A receiver that reads such a stream without lengths or separators between the words can tell where
each ends. `segment_unique` says so for a stream that may break off in the middle of a word: the
words read and what remains are determined by the symbols, whatever portions they come in.
-/

namespace PrefixCode

variable {α β : Type*}

/-- The words that `Word` admits are not empty, and none begins another one. Values that are not
words may have any code, so a format need not be total. -/
structure PrefixFree (Word : α → Prop) (code : α → List β) : Prop where
  ne_nil : ∀ a, Word a → code a ≠ []
  eq_of_prefix : ∀ a b, Word a → Word b → code a <+: code b → a = b

/-- `rest` does not contain a whole word at its beginning: it is what a receiver has of a word that
is still coming in. -/
def Incomplete (Word : α → Prop) (code : α → List β) (rest : List β) : Prop :=
  ∀ a, Word a → ¬ code a <+: rest

variable {Word : α → Prop} {code : α → List β}

/-- A receiver that has read nothing of a word is not holding a whole one, as no word is empty. -/
theorem PrefixFree.incomplete_nil (h : PrefixFree Word code) : Incomplete Word code [] := by
  intro a ha hbegins
  exact h.ne_nil a ha (List.prefix_nil.mp hbegins)

/-- What comes before the end of a word is incomplete. A word in it would begin the longer one, and
so be the longer one itself. -/
theorem PrefixFree.incomplete_of_shorter (h : PrefixFree Word code) {a : α} (ha : Word a)
    {rest : List β} (hbegins : rest <+: code a) (hlen : rest.length < (code a).length) :
    Incomplete Word code rest := by
  intro b hb hbrest
  obtain rfl := h.eq_of_prefix b a hb ha (hbrest.trans hbegins)
  exact absurd hbrest.length_le (Nat.not_le_of_lt hlen)

/-- The first words of two equal streams agree, since one of them begins the other one. -/
theorem PrefixFree.head_eq (h : PrefixFree Word code) {a b : α} (ha : Word a) (hb : Word b)
    {u v : List β} (heq : code a ++ u = code b ++ v) : a = b := by
  have hau : code a <+: code a ++ u := List.prefix_append _ _
  have hbu : code b <+: code a ++ u := heq ▸ List.prefix_append _ _
  -- Both are prefixes of one stream, so the shorter is a prefix of the longer.
  rcases List.prefix_or_prefix_of_prefix hau hbu with hab | hba
  · exact h.eq_of_prefix a b ha hb hab
  · exact (h.eq_of_prefix b a hb ha hba).symm

/-- **A stream has one segmentation.** Two ways to read the same symbols as words and an incomplete
rest are the same way, so what a receiver recovers is what was sent, however the stream was cut. -/
theorem PrefixFree.segment_unique (h : PrefixFree Word code) {xs ys : List α} {u v : List β}
    (hxs : ∀ a ∈ xs, Word a) (hys : ∀ a ∈ ys, Word a) (hu : Incomplete Word code u)
    (hv : Incomplete Word code v) (heq : xs.flatMap code ++ u = ys.flatMap code ++ v) :
    xs = ys ∧ u = v := by
  induction xs generalizing ys with
  | nil =>
    cases ys with
    | nil => exact ⟨rfl, heq⟩
    | cons b ys =>
      -- The other stream begins with a whole word, and this one does not.
      rw [List.flatMap_nil, List.nil_append, List.flatMap_cons, List.append_assoc] at heq
      exact absurd (heq ▸ List.prefix_append _ _) (hu b (hys b List.mem_cons_self))
  | cons a xs ih =>
    have ha := hxs a List.mem_cons_self
    cases ys with
    | nil =>
      rw [List.flatMap_nil, List.nil_append, List.flatMap_cons, List.append_assoc] at heq
      exact absurd (heq ▸ List.prefix_append _ _) (hv a ha)
    | cons b ys =>
      -- Both streams begin with a word. These are the same, and the rest is as before.
      rw [List.flatMap_cons, List.append_assoc, List.flatMap_cons, List.append_assoc] at heq
      obtain rfl := h.head_eq ha (hys b List.mem_cons_self) heq
      obtain ⟨rfl, rfl⟩ := ih (fun c hc => hxs c (List.mem_cons_of_mem _ hc))
        (fun c hc => hys c (List.mem_cons_of_mem _ hc)) (List.append_cancel_left heq)
      exact ⟨rfl, rfl⟩

end PrefixCode

import Mathlib.Data.List.Nodup
import Mathlib.Logic.Function.Basic

/-!
# Intrusive singly linked lists

A list whose links are stored in its nodes: a head, a tail, and the memory `next` of the links.
Appending writes the link of the appended node and that of the tail, whether or not these nodes are
part of the list already.

* `append` and `forEach`, the loop over the nodes, which a body may leave early. The loop may have
  no end, so it takes a number of iterations.
* `Segment next o xs o'` — following the links from `o`, the nodes `xs` come before `o'` is reached.
* `Linked l xs` — the nodes of `l` are `xs`, up to NULL, and the tail is the last of them.

Appending a new node keeps a list linked (`Linked.append`). Appending a node that is in the list
makes a loop of the tail, or cuts off what comes after the node (`Linked.append_again`).
-/

namespace SinglyLinked

/-- `sys_slist_t` with the links of the nodes, which lie in the nodes themselves and not in the
list. -/
structure SList (α : Type) where
  head : Option α
  tail : Option α
  next : α → Option α

variable {α : Type} [DecidableEq α]

/-- `sys_slist_init`: the links of the nodes are not touched, so they may be anything before a node
is appended. -/
def SList.init (next : α → Option α) : SList α := ⟨none, none, next⟩

/-- `sys_slist_append`: the node's link is NULL, the tail links to the node, and the node is the
tail. The function does not look whether the node is in the list. -/
def SList.append (l : SList α) (n : α) : SList α :=
  let next := Function.update l.next n none
  match l.tail with
  | none => ⟨some n, some n, next⟩
  -- The link of the tail is written last. When the node is the tail it then links to itself.
  | some t => ⟨l.head, some n, Function.update next t (some n)⟩

/-- `SYS_SLIST_FOR_EACH_NODE` from a node: the nodes visited when the loop ends within `fuel`
iterations, at NULL or at the first node where the body leaves it. -/
def forEach (next : α → Option α) (leave : α → Bool) : ℕ → Option α → Option (List α)
  | _, none => some []
  | 0, some _ => none
  | fuel + 1, some a =>
    if leave a then some [a] else (forEach next leave fuel (next a)).map (a :: ·)

/-- The nodes visited when the body leaves the loop: up to the first one where it does, which is
visited too. -/
def visited (leave : α → Bool) : List α → List α
  | [] => []
  | a :: xs => if leave a then [a] else a :: visited leave xs

/-! ### Segments -/

omit [DecidableEq α]

/-- The links lead from `o` through the nodes `xs` to `o'`, which is NULL or a node behind them. -/
def Segment (next : α → Option α) : Option α → List α → Option α → Prop
  | o, [], o' => o = o'
  | o, a :: xs, o' => o = some a ∧ Segment next (next a) xs o'

section Segment

variable {next next' : α → Option α} {o o' : Option α} {xs ys : List α} {a : α}

/-- A segment splits where its nodes do, at the node that comes next there. -/
theorem segment_append :
    Segment next o (xs ++ ys) o' ↔ ∃ m, Segment next o xs m ∧ Segment next m ys o' := by
  induction xs generalizing o with
  | nil => exact ⟨fun h => ⟨o, rfl, h⟩, fun ⟨m, hm, h⟩ => hm ▸ h⟩
  | cons a xs ih =>
    constructor
    · rintro ⟨ho, h⟩
      obtain ⟨m, hxs, hys⟩ := ih.mp h
      exact ⟨m, ⟨ho, hxs⟩, hys⟩
    · rintro ⟨m, ⟨ho, hxs⟩, hys⟩
      exact ⟨ho, ih.mpr ⟨m, hxs, hys⟩⟩

/-- A segment depends on the links of its nodes only, so writing another link leaves it as it is. -/
theorem Segment.congr (h : Segment next o xs o') (heq : ∀ a ∈ xs, next' a = next a) :
    Segment next' o xs o' := by
  induction xs generalizing o with
  | nil => exact h
  | cons a xs ih =>
    obtain ⟨ho, h⟩ := h
    refine ⟨ho, ih ?_ fun b hb => heq b (List.mem_cons_of_mem a hb)⟩
    rwa [heq a List.mem_cons_self]

/-- The way to NULL goes on from the end of every segment, as the links leave no choice. -/
theorem Segment.rest (h : Segment next o xs o') (hys : Segment next o ys none) :
    ∃ zs, ys = xs ++ zs ∧ Segment next o' zs none := by
  induction xs generalizing o ys with
  | nil =>
    obtain rfl : o = o' := h
    exact ⟨ys, rfl, hys⟩
  | cons a xs ih =>
    obtain ⟨rfl, h⟩ := h
    cases ys with
    | nil => cases hys
    | cons b ys =>
      obtain ⟨hb, hys⟩ := hys
      obtain rfl := Option.some.inj hb
      obtain ⟨zs, rfl, hzs⟩ := ih h hys
      exact ⟨zs, rfl, hzs⟩

/-- There is one way to NULL from a node, so the nodes of a list are determined. -/
theorem Segment.unique (h : Segment next o xs none) (h' : Segment next o ys none) : xs = ys := by
  obtain ⟨zs, rfl, hzs⟩ := h.rest h'
  cases zs with
  | nil => exact (List.append_nil xs).symm
  | cons => cases hzs.1

/-- A node that links to itself does not lead to NULL, however long one follows it. -/
theorem not_segment_of_self (hself : next a = some a) : ¬ Segment next (some a) xs none := by
  induction xs with
  | nil => exact nofun
  | cons b xs ih =>
    rintro ⟨hb, h⟩
    obtain rfl := Option.some.inj hb
    rw [hself] at h
    exact ih h

/-! ### The loop -/

/-- The loop over a segment that ends at NULL, with as many iterations as there are nodes. -/
theorem forEach_of_segment (leave : α → Bool) {fuel : ℕ} (h : Segment next o xs none)
    (hfuel : xs.length ≤ fuel) : forEach next leave fuel o = some (visited leave xs) := by
  induction xs generalizing o fuel with
  | nil =>
    obtain rfl : o = none := h
    unfold forEach
    rfl
  | cons a xs ih =>
    obtain ⟨rfl, h⟩ := h
    cases fuel with
    | zero => exact absurd hfuel (Nat.not_succ_le_zero _)
    | succ fuel =>
      rw [forEach, ih h (Nat.le_of_succ_le_succ hfuel), visited]
      split <;> rfl

/-- A body that never leaves the loop visits all nodes. -/
theorem visited_all (xs : List α) : visited (fun _ => false) xs = xs := by
  induction xs with
  | nil => rfl
  | cons a xs ih => rw [visited, if_neg Bool.false_ne_true, ih]

/-- What the body looks for is among the nodes visited, and is the first one in the whole list. -/
theorem find?_visited (leave : α → Bool) (xs : List α) :
    (visited leave xs).find? leave = xs.find? leave := by
  induction xs with
  | nil => rfl
  | cons a xs ih =>
    rw [visited]
    by_cases ha : leave a = true
    · rw [if_pos ha, List.find?_cons_of_pos ha, List.find?_cons_of_pos ha]
    · rw [if_neg ha, List.find?_cons_of_neg ha, List.find?_cons_of_neg ha, ih]

/-- A loop that is not left early ends with the nodes up to NULL. With `Segment.unique`, a loop that
ends shows what the list is. -/
theorem segment_of_forEach {fuel : ℕ}
    (h : forEach next (fun _ => false) fuel o = some xs) : Segment next o xs none := by
  induction fuel generalizing o xs with
  -- without fuel the loop has ended only at NULL
  | zero =>
    cases o with
    | none =>
      unfold forEach at h
      obtain rfl := Option.some.inj h
      rfl
    | some a => cases h
  | succ fuel ih =>
    cases o with
    | none =>
      unfold forEach at h
      obtain rfl := Option.some.inj h
      rfl
    | some a =>
      -- the node is visited, and the rest is the list from its successor
      rw [forEach, if_neg Bool.false_ne_true, Option.map_eq_some_iff] at h
      obtain ⟨ys, hys, rfl⟩ := h
      exact ⟨rfl, ih hys⟩

end Segment

/-! ### Linked lists -/

/-- The nodes of the list are `xs`, in this order, and the tail is the last of them. -/
structure Linked (l : SList α) (xs : List α) : Prop where
  segment : Segment l.next l.head xs none
  tail : l.tail = xs.getLast?

/-- A list that has just been initialised has no nodes. -/
theorem Linked.init (next : α → Option α) : Linked (SList.init next) [] := ⟨rfl, rfl⟩

variable [DecidableEq α] {l : SList α} {xs : List α} {n : α}

/-- **A new node is appended,** that is, one that is not in the list. Then the list has it behind
the nodes it had. -/
theorem Linked.append (h : Linked l xs) (hxs : xs.Nodup) (hn : n ∉ xs) :
    Linked (l.append n) (xs ++ [n]) := by
  refine ⟨?_, ?_⟩
  · rcases List.eq_nil_or_concat' xs with rfl | ⟨ys, t, rfl⟩
    · -- the first node is the head as well
      have htail : l.tail = none := h.tail
      unfold SList.append
      rw [htail]
      exact ⟨rfl, Function.update_self ..⟩
    · have htail : l.tail = some t := h.tail.trans List.getLast?_concat
      have hnt : n ≠ t := fun heq => hn (heq ▸ List.mem_append_right ys List.mem_cons_self)
      have hty : t ∉ ys := fun ht =>
        List.disjoint_of_nodup_append hxs ht List.mem_cons_self
      unfold SList.append
      rw [htail]
      dsimp only
      -- only the links of `n` and of the tail are written
      obtain ⟨m, hys, hm, -⟩ := segment_append.mp h.segment
      refine segment_append.mpr ⟨some n, segment_append.mpr ⟨m, hys.congr fun a ha => ?_, hm, ?_⟩,
        rfl, ?_⟩
      · rw [Function.update_of_ne (ne_of_mem_of_not_mem ha hty),
          Function.update_of_ne (ne_of_mem_of_not_mem (List.mem_append_left _ ha) hn)]
      · exact Function.update_self ..
      · rw [Function.update_of_ne hnt]
        exact Function.update_self ..
  · rw [List.getLast?_concat]
    unfold SList.append
    cases l.tail <;> rfl

/-- **A node of the list is appended again**: the loop does not end, or it misses a node. So there
is no traversal that visits all of them any more, and not visiting all is what is left to prove. -/
theorem Linked.append_again (h : Linked l xs) (hxs : xs.Nodup) (hn : n ∈ xs) {ys : List α}
    (hys : Segment (l.append n).next (l.append n).head ys none) : ∃ a ∈ xs, a ∉ ys := by
  obtain ⟨pre, post, rfl⟩ := List.append_of_mem hn
  obtain ⟨m, hpre, hm, hpost⟩ := segment_append.mp h.segment
  obtain rfl : m = some n := hm
  have hnpre : n ∉ pre := fun hmem =>
    List.disjoint_of_nodup_append hxs hmem List.mem_cons_self
  rcases List.eq_nil_or_concat' post with rfl | ⟨post, t, rfl⟩
  · -- `n` is the tail, and links to itself
    have htail : l.tail = some n := h.tail.trans List.getLast?_concat
    unfold SList.append at hys
    rw [htail] at hys
    dsimp only at hys
    have hpre' : Segment (Function.update (Function.update l.next n none) n (some n)) l.head pre
        (some n) := hpre.congr fun a ha => by
      rw [Function.update_of_ne (ne_of_mem_of_not_mem ha hnpre),
        Function.update_of_ne (ne_of_mem_of_not_mem ha hnpre)]
    obtain ⟨zs, -, hzs⟩ := hpre'.rest hys
    exact absurd hzs (not_segment_of_self (Function.update_self ..))
  · -- the tail comes after `n`, whose link is NULL now
    have htail : l.tail = some t := by
      rw [h.tail, ← List.cons_append, ← List.append_assoc]
      exact List.getLast?_concat
    -- the tail is neither `n` nor before it, so what is written does not change the way to `n`
    have htpre : t ∉ pre ++ [n] := fun hmem => by
      rw [show pre ++ n :: (post ++ [t]) = (pre ++ [n]) ++ (post ++ [t]) by simp] at hxs
      exact List.disjoint_of_nodup_append hxs hmem (List.mem_append_right _ List.mem_cons_self)
    have htn : t ≠ n := fun heq => htpre (heq ▸ List.mem_append_right _ List.mem_cons_self)
    unfold SList.append at hys
    rw [htail] at hys
    dsimp only at hys
    have hcut : Segment (Function.update (Function.update l.next n none) t (some n)) l.head
        (pre ++ [n]) none := by
      refine segment_append.mpr ⟨some n, hpre.congr fun a ha => ?_, rfl, ?_⟩
      · rw [Function.update_of_ne (ne_of_mem_of_not_mem (List.mem_append_left _ ha) htpre),
          Function.update_of_ne (ne_of_mem_of_not_mem ha hnpre)]
      · rw [Function.update_of_ne htn.symm]
        exact Function.update_self ..
    refine ⟨t, ?_, ?_⟩
    · exact List.mem_append_right _ (List.mem_cons_of_mem _
        (List.mem_append_right _ List.mem_cons_self))
    · rwa [← hcut.unique hys]

end SinglyLinked

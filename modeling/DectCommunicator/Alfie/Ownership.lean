import DectCommunicator.Alfie.Interleaving
import DectCommunicator.Ble.AlfieService

/-!
# Ownership under interleaving

What survives when the receiving thread and the router thread run `utils/transport_buffer.c` load by
load and store by store.

A `net_buf` is on the free list, or one context owns it: the one that points to it and still uses
it, or the one it has been allocated for. `Owned` is the life of one context, phase by phase, with
the role that each thread plays for it; `OwnershipInv` says that every context is in a phase, for
one assignment of owners. A step of a thread concerns the one context it is at
(`OwnershipInv.at_context`), so what a step does to a phase is all there is to prove.

Two schedules break it: both threads load the reference count of a context before either drops its
reference, and an allocation stores its buffer between the two last stores of a release.
`Undisturbed` excludes these and nothing else, and `ownership_survives` is what then holds of every
interleaving.
-/

namespace DectCommunicator

open Machine

variable {ε κ : Type}

/-! ### Roles -/

/-- What a thread is to a context: what it has seen and done so far, as far as the other thread
could interfere with it. -/
inductive Role where
  | away
  /-- it has seen that the context is RECEIVING -/
  | receiving
  /-- it has destroyed the `net_buf` of a timed out context -/
  | destroyed
  /-- and cleared the pointer -/
  | cleared
  /-- it has seen that the context is FREE, and perhaps allocated a `net_buf` for it -/
  | found (allocated : Option ℕ)
  /-- it has stored the pointer to it, and perhaps seen that it is not NULL -/
  | filling (checked : Bool)
  /-- it holds references, and has perhaps loaded whether there is no other -/
  | holds (refs : ℕ) (lastReference : Option Bool)
  /-- it has dropped the last reference -/
  | freeing
  /-- and stored FREE -/
  | nulling
deriving DecidableEq, Repr

/-- The references of a thread in a role, each of which it will drop. -/
def Role.refs : Role → ℕ
  | .holds n _ => n
  | _ => 0

/-- The roles that a thread may have for a context with `total` references. -/
def Role.Holding (total : ℕ) : Role → Prop
  | .away => True
  | .holds n lastReference => 0 < n ∧ ∀ b ∈ lastReference, b = decide (total = 1)
  | _ => False

/-- In a release the thread holds its reference up to `net_buf_unref`, and after the last one has
the two stores before it. -/
def UnrefPc.role : UnrefPc → Role
  | .checkNull | .loadRef => .holds 1 none
  | .netBufUnref lastReference => .holds 1 (some lastReference)
  | .storeFree => .freeing
  | .storeNull => .nulling

/-- The expiry loop takes a context away step by step. -/
def ExpiryPc.role : ExpiryPc → Role
  | .loadState => .away
  | .loadLastRxTimeMs | .netBufDestroy => .receiving
  | .storeNull => .destroyed
  | .storeFree => .cleared

/-- The second loop has seen that a context is RECEIVING before it compares. -/
def LookupPc.role : LookupPc → Role
  | .loadState => .away
  | .compare => .receiving

/-- The allocation has a `net_buf` first, then a pointer to it, and the state last. -/
def AllocPc.role : AllocPc → Role
  | .netBufAlloc => .found none
  | .storeBuffer buffer => .found buffer
  | .checkNull => .filling false
  | .storeHeader _ | .storeReceiving => .filling true

/-- The callback is called with the reference of the transport, and enqueues with that of the
router. -/
def CallbackPc.role : CallbackPc → Role
  | .checkRegistered | .checkSize | .checkNull | .netBufRef => .holds 1 none
  | .enqueue => .holds 2 none

/-- The receiving thread holds the reference of the allocation from the completion on, and before it
enqueues the context the one of the router, too. -/
def RxPc.role : RxPc → Role
  | .expiry pc => pc.role
  | .lookup pc => pc.role
  | .findFree => .away
  | .alloc pc => pc.role
  | .write _ => .receiving
  | .callback pc => pc.role
  | .unref pc => pc.role

/-- The router thread holds the reference that was taken for it, and then releases it. -/
def RouterThreadPc.role : RouterThreadPc → Role
  | .forward => .holds 1 none
  | .unref pc => pc.role

/-- The role for context `i` of a thread that has the role `r` for context `j`. -/
def roleAt (i : ℕ) : Option (ℕ × Role) → Role
  | some (j, r) => if j = i then r else .away
  | none => .away

/-- The context a thread is at, and its role for it. -/
def Interleaving.position (s : Interleaving ε κ) : ThreadId → Option (ℕ × Role)
  | .receiver => s.receiver.map fun r => (r.context, r.pc.role)
  | .router => s.router.map fun r => (r.context, r.pc.role)

/-- The role of a thread for context `i`: a thread is at one context, and away from the others. -/
def Interleaving.role (s : Interleaving ε κ) (i : ℕ) (t : ThreadId) : Role :=
  roleAt i (s.position t)

/-- The references to context `i`: those of the threads and those in the FIFO. -/
def Interleaving.holders (s : Interleaving ε κ) (i : ℕ) : ℕ :=
  (s.role i .receiver).refs + s.fifo.count i + (s.role i .router).refs

/-! ### The life of a context -/

/-- The phases of context `i`: its state and its pointer, the roles of the threads, and how often it
is in the FIFO. `owner` is the context that a `net_buf` is in use for. -/
inductive Owned (owner : ℕ → Option ℕ) (ref : ℕ → ℕ) (i : ℕ) :
    TransportBufferState → Option ℕ → (ThreadId → Role) → ℕ → Prop
  | free {buffer : Option ℕ} {role : ThreadId → Role}
      (hrole : ∀ t, role t = .away ∨ role t = .nulling) :
      Owned owner ref i .free buffer role 0
  | found {buffer allocated : Option ℕ} {role : ThreadId → Role}
      (hreceiver : role .receiver = .found allocated)
      (hrouter : role .router = .away ∨ role .router = .nulling)
      (hallocated : ∀ id ∈ allocated, owner id = some i ∧ ref id = 1) :
      Owned owner ref i .free buffer role 0
  | filling {buffer : Option ℕ} {role : ThreadId → Role} {checked : Bool}
      (hreceiver : role .receiver = .filling checked)
      (hrouter : role .router = .away ∨ role .router = .nulling)
      (hbuffer : ∀ id ∈ buffer, owner id = some i ∧ ref id = 1 ∧ role .router = .away)
      (hchecked : checked = true → buffer ≠ none) :
      Owned owner ref i .free buffer role 0
  | receiving {id : ℕ} {role : ThreadId → Role}
      (hreceiver : role .receiver = .away ∨ role .receiver = .receiving)
      (hrouter : role .router = .away) (howner : owner id = some i) (href : ref id = 1) :
      Owned owner ref i .receiving (some id) role 0
  | destroyed {id : ℕ} {role : ThreadId → Role} (hreceiver : role .receiver = .destroyed)
      (hrouter : role .router = .away) : Owned owner ref i .receiving (some id) role 0
  | cleared {role : ThreadId → Role} (hreceiver : role .receiver = .cleared)
      (hrouter : role .router = .away) : Owned owner ref i .receiving none role 0
  | held {id queued : ℕ} {role : ThreadId → Role} (hrole : ∀ t, (role t).Holding (ref id))
      (href : ref id = (role .receiver).refs + queued + (role .router).refs) (hpos : 0 < ref id)
      (howner : owner id = some i) : Owned owner ref i .referenced (some id) role queued
  | closing {buffer : Option ℕ} {role : ThreadId → Role} {t : ThreadId} (hrole : role t = .freeing)
      (hother : role t.other = .away) : Owned owner ref i .referenced buffer role 0

section Owned

variable {owner owner' : ℕ → Option ℕ} {ref ref' : ℕ → ℕ} {i queued : ℕ}
  {state : TransportBufferState} {buffer : Option ℕ} {role : ThreadId → Role} {t : ThreadId}

/-- Only the `net_buf`s of the context matter, so a step at another context keeps the phase. -/
theorem Owned.frame (h : Owned owner ref i state buffer role queued)
    (hnet : ∀ id, owner id = some i → owner' id = some i ∧ ref' id = ref id) :
    Owned owner' ref' i state buffer role queued := by
  cases h with
  | free hrole => exact .free hrole
  | found hreceiver hrouter hallocated =>
    -- a `net_buf` that has been allocated is owned before the pointer is stored
    refine .found hreceiver hrouter fun id hid => ?_
    obtain ⟨howner, href⟩ := hallocated id hid
    obtain ⟨howner', href'⟩ := hnet id howner
    exact ⟨howner', href'.trans href⟩
  | filling hreceiver hrouter hbuffer hchecked =>
    refine .filling hreceiver hrouter (fun id hid => ?_) hchecked
    obtain ⟨howner, href, haway⟩ := hbuffer id hid
    obtain ⟨howner', href'⟩ := hnet id howner
    exact ⟨howner', href'.trans href, haway⟩
  | receiving hreceiver hrouter howner href =>
    obtain ⟨howner', href'⟩ := hnet _ howner
    exact .receiving hreceiver hrouter howner' (href'.trans href)
  -- the pointer of a destroyed `net_buf` is not followed again, so nothing is said of it
  | destroyed hreceiver hrouter => exact .destroyed hreceiver hrouter
  | cleared hreceiver hrouter => exact .cleared hreceiver hrouter
  | held hrole href hpos howner =>
    obtain ⟨howner', href'⟩ := hnet _ howner
    refine .held ?_ ?_ ?_ howner'
    · rwa [href']
    · rwa [href']
    · rwa [href']
  | closing hrole hother => exact .closing hrole hother

/-! What a thread knows from its role. -/

/-- RECEIVING, and the receiving thread has not begun to take it away. -/
theorem Owned.of_receiving (h : Owned owner ref i state buffer role queued)
    (hrole : role .receiver = .receiving ∨ state = .receiving ∧ role .receiver = .away) :
    ∃ id, state = .receiving ∧ buffer = some id ∧ owner id = some i ∧ ref id = 1 ∧
      role .router = .away ∧ queued = 0 := by
  cases h with
  | receiving _ hrouter howner href => exact ⟨_, rfl, rfl, howner, href, hrouter, rfl⟩
  -- in every other phase the receiving thread has another role, or the state is another one
  | free hfree => rcases hfree .receiver with h | h <;> simp [h] at hrole
  | held hholding =>
    have h := hholding .receiver
    rcases hrole with hrole | hrole
    · rw [hrole] at h
      exact h.elim
    · cases hrole.1
  | @closing _ _ t => cases t <;> simp_all [ThreadId.other]
  | _ => simp_all

/-- RECEIVING without its `net_buf`: nobody else has to do with it. -/
theorem Owned.of_expiring (h : Owned owner ref i state buffer role queued)
    (hrole : role .receiver = .destroyed ∨ role .receiver = .cleared) :
    state = .receiving ∧ role .router = .away ∧ queued = 0 := by
  cases h with
  | destroyed _ hrouter => exact ⟨rfl, hrouter, rfl⟩
  | cleared _ hrouter => exact ⟨rfl, hrouter, rfl⟩
  -- only the expiry loop has these roles
  | free hfree => rcases hfree .receiver with h | h <;> simp [h] at hrole
  | held hholding =>
    have h := hholding .receiver
    rcases hrole with hrole | hrole <;> (rw [hrole] at h; exact h.elim)
  | @closing _ _ t => cases t <;> simp_all [ThreadId.other]
  | _ => simp_all

/-- A FREE context that the receiving thread does not allocate. -/
theorem Owned.of_free (h : Owned owner ref i .free buffer role queued)
    (haway : role .receiver = .away) :
    (role .router = .away ∨ role .router = .nulling) ∧ queued = 0 := by
  cases h with
  | free hfree => exact ⟨hfree .router, rfl⟩
  | found hreceiver => rw [haway] at hreceiver; cases hreceiver
  | filling hreceiver => rw [haway] at hreceiver; cases hreceiver

/-- A context that the receiving thread has found FREE is FREE, with the allocated buffer its own.
The router can at most be at the last store of its release. -/
theorem Owned.of_found {allocated : Option ℕ} (h : Owned owner ref i state buffer role queued)
    (hrole : role .receiver = .found allocated) :
    state = .free ∧ (role .router = .away ∨ role .router = .nulling) ∧
      (∀ id ∈ allocated, owner id = some i ∧ ref id = 1) ∧ queued = 0 := by
  cases h with
  | found hreceiver hrouter hallocated =>
    rw [hrole] at hreceiver
    cases hreceiver
    exact ⟨rfl, hrouter, hallocated, rfl⟩
  | free hfree => rcases hfree .receiver with h | h <;> simp [h] at hrole
  | held hholding =>
    have h := hholding .receiver
    rw [hrole] at h
    exact h.elim
  | @closing _ _ t => cases t <;> simp_all [ThreadId.other]
  | _ => simp_all

/-- A context that is being filled is FREE until the state is stored, and a pointer stored to it is
safe when the router is away. -/
theorem Owned.of_filling {checked : Bool} (h : Owned owner ref i state buffer role queued)
    (hrole : role .receiver = .filling checked) :
    state = .free ∧ (role .router = .away ∨ role .router = .nulling) ∧
      (∀ id ∈ buffer, owner id = some i ∧ ref id = 1 ∧ role .router = .away) ∧
      (checked = true → buffer ≠ none) ∧ queued = 0 := by
  cases h with
  | filling hreceiver hrouter hbuffer hchecked =>
    rw [hrole] at hreceiver
    cases hreceiver
    exact ⟨rfl, hrouter, hbuffer, hchecked, rfl⟩
  | free hfree => rcases hfree .receiver with h | h <;> simp [h] at hrole
  | held hholding =>
    have h := hholding .receiver
    rw [hrole] at h
    exact h.elim
  | @closing _ _ t => cases t <;> simp_all [ThreadId.other]
  | _ => simp_all

/-- A holder's context is REFERENCED, and its `net_buf` counts the holders. -/
theorem Owned.of_holders (h : Owned owner ref i state buffer role queued)
    (hpos : 0 < (role .receiver).refs + queued + (role .router).refs) :
    ∃ id, state = .referenced ∧ buffer = some id ∧ owner id = some i ∧
      (∀ t, (role t).Holding (ref id)) ∧
      ref id = (role .receiver).refs + queued + (role .router).refs := by
  cases h with
  | held hrole href _ howner => exact ⟨_, rfl, rfl, howner, hrole, href⟩
  -- nobody holds a reference in the other phases
  | free hfree =>
    rcases hfree .receiver with h | h <;> rcases hfree .router with h' | h' <;>
      simp [h, h', Role.refs] at hpos
  | found hreceiver hrouter =>
    rcases hrouter with h | h <;> simp [h, hreceiver, Role.refs] at hpos
  | filling hreceiver hrouter =>
    rcases hrouter with h | h <;> simp [h, hreceiver, Role.refs] at hpos
  | receiving hreceiver hrouter =>
    rcases hreceiver with h | h <;> simp [h, hrouter, Role.refs] at hpos
  | destroyed hreceiver hrouter => simp [hreceiver, hrouter, Role.refs] at hpos
  | cleared hreceiver hrouter => simp [hreceiver, hrouter, Role.refs] at hpos
  | @closing _ _ t hrole hother =>
    cases t <;> simp_all [ThreadId.other, Role.refs]

/-- Whoever has dropped the last reference is alone with the context. -/
theorem Owned.of_freeing (h : Owned owner ref i state buffer role queued)
    (hrole : role t = .freeing) : state = .referenced ∧ role t.other = .away ∧ queued = 0 := by
  cases h with
  | @closing _ _ t' hfreeing hother =>
    refine ⟨rfl, ?_, rfl⟩
    cases t <;> cases t' <;> simp_all [ThreadId.other]
  | held hholding =>
    have h := hholding t
    rw [hrole] at h
    exact h.elim
  | free hfree => rcases hfree t with h | h <;> simp [h] at hrole
  | _ => cases t <;> simp_all

/-- At the last store of a release the context is FREE, and may be in use again. -/
theorem Owned.of_nulling (h : Owned owner ref i state buffer role queued)
    (hrole : role t = .nulling) : state = .free ∧ queued = 0 := by
  cases h with
  | free => exact ⟨rfl, rfl⟩
  | found => exact ⟨rfl, rfl⟩
  | filling => exact ⟨rfl, rfl⟩
  | held hholding =>
    have h := hholding t
    rw [hrole] at h
    exact h.elim
  | @closing _ _ t' => cases t <;> cases t' <;> simp_all [ThreadId.other]
  | _ => cases t <;> simp_all

/-! What a step makes of a phase. -/

/-- The references of the two threads and the FIFO, one of the threads first. -/
theorem refs_add (role : ThreadId → Role) (queued : ℕ) (t : ThreadId) :
    (role .receiver).refs + queued + (role .router).refs =
      (role t).refs + (queued + (role t.other).refs) := by
  cases t
  · exact Nat.add_assoc _ _ _
  · show _ = (role .router).refs + (queued + (role .receiver).refs)
    omega

/-- A thread that changes its role leaves the other one's. -/
theorem update_other (role : ThreadId → Role) (t : ThreadId) (r : Role) :
    Function.update role t r t.other = role t.other := by
  cases t <;> rfl

/-- The role of a thread changes, or the count does: the references are still counted. -/
theorem Owned.of_held {id : ℕ} {r : Role} (howner : owner id = some i)
    (hr : r.Holding (ref id)) (hother : (role t.other).Holding (ref id))
    (href : ref id = r.refs + (queued + (role t.other).refs)) (hpos : 0 < ref id) :
    Owned owner ref i .referenced (some id) (Function.update role t r) queued := by
  refine .held (fun t' => ?_) ?_ hpos howner
  · cases t <;> cases t' <;> assumption
  · rw [refs_add _ _ t, Function.update_self, update_other]
    exact href

/-- The last store of a release clears the pointer of a FREE context that is not in use again. -/
theorem Owned.nulled (h : Owned owner ref i state buffer role queued)
    (hrole : role t = .nulling) :
    Owned owner ref i state none (Function.update role t .away) queued := by
  have haway : Function.update role t .away t = .away := Function.update_self t _ role
  cases h with
  | free hfree =>
    -- the release of a context that nobody has taken since
    refine .free fun t' => ?_
    by_cases ht : t' = t
    · rw [ht]
      exact Or.inl haway
    · rw [Function.update_of_ne ht]
      exact hfree t'
  | found hreceiver _ hallocated =>
    cases t with
    | receiver => rw [hrole] at hreceiver; cases hreceiver
    -- the allocation has seen FREE, but not yet stored its pointer
    | router => exact .found hreceiver (Or.inl rfl) hallocated
  | @filling _ _ checked hreceiver _ hbuffer hchecked =>
    cases t with
    | receiver => rw [hrole] at hreceiver; cases hreceiver
    | router =>
      refine .filling hreceiver (Or.inl rfl) (fun id hid => by cases hid) fun hc => ?_
      -- a pointer that has been checked is one that the router does not clear
      obtain ⟨id, hid⟩ := Option.ne_none_iff_exists'.mp (hchecked hc)
      have hrouter := (hbuffer id hid).2.2
      rw [hrole] at hrouter
      cases hrouter
  | receiving hreceiver hrouter =>
    cases t with
    | receiver => rcases hreceiver with h | h <;> (rw [hrole] at h; cases h)
    | router => rw [hrole] at hrouter; cases hrouter
  | destroyed hreceiver hrouter =>
    cases t with
    | receiver => rw [hrole] at hreceiver; cases hreceiver
    | router => rw [hrole] at hrouter; cases hrouter
  | cleared hreceiver hrouter =>
    cases t with
    | receiver => rw [hrole] at hreceiver; cases hreceiver
    | router => rw [hrole] at hrouter; cases hrouter
  | held hholding =>
    have h := hholding t
    rw [hrole] at h
    exact h.elim
  | @closing _ _ t' => cases t <;> cases t' <;> simp_all [ThreadId.other]

end Owned

/-! ### The invariant -/

/-- **The invariant**: every context is in a phase of its life. -/
structure OwnershipInv (owner : ℕ → Option ℕ) (m : PoolMemory ε κ) (role : ℕ → ThreadId → Role)
    (queued : ℕ → ℕ) : Prop where
  owned : ∀ i c, m.contexts[i]? = some c →
    Owned owner m.ref i c.state c.buffer (role i) (queued i)
  nodup : m.freeBufs.Nodup
  freeList : ∀ id ∈ m.freeBufs, owner id = none

/-- Thread `t` takes the role `r` for context `i`, and keeps its others. -/
def setRole (role : ℕ → ThreadId → Role) (i : ℕ) (t : ThreadId) (r : Role) : ℕ → ThreadId → Role :=
  Function.update role i (Function.update (role i) t r)

section OwnershipInv

variable {owner owner' : ℕ → Option ℕ} {m m' : PoolMemory ε κ} {role role' : ℕ → ThreadId → Role}
  {queued queued' : ℕ → ℕ} {i id : ℕ} {t : ThreadId} {r : Role}

/-- For context `i` the roles are updated. -/
theorem setRole_self : setRole role i t r i = Function.update (role i) t r :=
  Function.update_self i _ role

/-- For another context they are not. -/
theorem setRole_of_ne {j : ℕ} (h : j ≠ i) : setRole role i t r j = role j :=
  Function.update_of_ne h _ role

/-- **A step concerns one context**: the others keep their phases. -/
theorem OwnershipInv.at_context (h : OwnershipInv owner m role queued) (i : ℕ)
    (hcontexts : ∀ j, j ≠ i → m'.contexts[j]? = m.contexts[j]?)
    (hrole : ∀ j, j ≠ i → role' j = role j) (hqueued : ∀ j, j ≠ i → queued' j = queued j)
    (hnet : ∀ id j, j ≠ i → owner id = some j → owner' id = some j ∧ m'.ref id = m.ref id)
    (hi : ∀ c, m'.contexts[i]? = some c →
      Owned owner' m'.ref i c.state c.buffer (role' i) (queued' i))
    (hnodup : m'.freeBufs.Nodup) (hfree : ∀ id ∈ m'.freeBufs, owner' id = none) :
    OwnershipInv owner' m' role' queued' where
  owned j c hj := by
    by_cases hji : j = i
    · subst hji
      exact hi c hj
    · rw [hcontexts j hji] at hj
      rw [hrole j hji, hqueued j hji]
      exact (h.owned j c hj).frame fun id hid => hnet id j hji hid
  nodup := hnodup
  freeList := hfree

/-- A store to the context, of which it is to be shown what it makes of the phase. No count
changes. -/
theorem OwnershipInv.store (h : OwnershipInv owner m role queued)
    (f : ContextMemory ε → ContextMemory ε)
    (hi : ∀ c, m.contexts[i]? = some c → Owned owner m.ref i c.state c.buffer (role i) (queued i) →
      Owned owner m.ref i (f c).state (f c).buffer (Function.update (role i) t r) (queued i)) :
    OwnershipInv owner (m.modify i f) (setRole role i t r) queued := by
  refine h.at_context i (fun j hj => m.modify_getElem?_of_ne f hj) (fun j hj => setRole_of_ne hj)
    (fun _ _ => rfl) (fun id j _ hid => ⟨hid, rfl⟩) ?_ h.nodup h.freeList
  intro c' hc'
  rw [m.modify_getElem?_self, Option.map_eq_some_iff] at hc'
  obtain ⟨c, hc, rfl⟩ := hc'
  rw [setRole_self]
  exact hi c hc (h.owned i c hc)

/-- A load: the thread learns something, or leaves. The memory stays, and so do the other phases. -/
theorem OwnershipInv.load (h : OwnershipInv owner m role queued)
    (hi : ∀ c, m.contexts[i]? = some c → Owned owner m.ref i c.state c.buffer (role i) (queued i) →
      Owned owner m.ref i c.state c.buffer (Function.update (role i) t r) (queued i)) :
    OwnershipInv owner m (setRole role i t r) queued := by
  refine h.at_context i (fun _ _ => rfl) (fun j hj => setRole_of_ne hj) (fun _ _ => rfl)
    (fun id j _ hid => ⟨hid, rfl⟩) ?_ h.nodup h.freeList
  intro c hc
  rw [setRole_self]
  exact hi c hc (h.owned i c hc)

/-- An operation on a `net_buf` that no other context owns. -/
theorem OwnershipInv.netBuf (h : OwnershipInv owner m role queued)
    (hcontexts : m'.contexts = m.contexts) (hid : ∀ j, owner id = some j → j = i)
    (hnet : ∀ id', id' ≠ id → owner' id' = owner id' ∧ m'.ref id' = m.ref id')
    (hi : ∀ c, m.contexts[i]? = some c → Owned owner m.ref i c.state c.buffer (role i) (queued i) →
      Owned owner' m'.ref i c.state c.buffer (Function.update (role i) t r) (queued i))
    (hnodup : m'.freeBufs.Nodup) (hfree : ∀ id ∈ m'.freeBufs, owner' id = none) :
    OwnershipInv owner' m' (setRole role i t r) queued := by
  refine h.at_context i (fun _ _ => by rw [hcontexts]) (fun j hj => setRole_of_ne hj)
    (fun _ _ => rfl) (fun id' j hj hid' => ?_) ?_ hnodup hfree
  · -- a `net_buf` of another context is another one
    have hne : id' ≠ id := by
      rintro rfl
      exact hj (hid j hid')
    obtain ⟨howner, href⟩ := hnet id' hne
    exact ⟨howner.trans hid', href⟩
  · intro c hc
    rw [hcontexts] at hc
    rw [setRole_self]
    exact hi c hc (h.owned i c hc)

/-! ### `transport_buffer_unref` -/

/-- The `net_buf` of a context that a thread holds: it is there, it is owned, and its count is that
of the holders. -/
theorem OwnershipInv.pointer_of_holds (h : OwnershipInv owner m role queued)
    (hrole : 0 < (role i t).refs) {c : ContextMemory ε} (hc : m.contexts[i]? = some c) :
    ∃ id, m.pointer i = some id ∧ c.state = .referenced ∧ c.buffer = some id ∧
      owner id = some i ∧ (∀ t, (role i t).Holding (m.ref id)) ∧
      m.ref id = (role i t).refs + (queued i + (role i t.other).refs) := by
  obtain ⟨id, hstate, hbuffer, howner, hholding, href⟩ := (h.owned i c hc).of_holders (by
    rw [refs_add _ _ t]
    exact Nat.add_pos_left hrole _)
  rw [refs_add _ _ t] at href
  exact ⟨id, (m.pointer_eq hc).trans hbuffer, hstate, hbuffer, howner, hholding, href⟩

/-- Without references a thread that may hold the context is away. -/
theorem Role.Holding.away_of_refs {total : ℕ} (h : r.Holding total) (hrefs : r.refs = 0) :
    r = .away := by
  cases r with
  | away => rfl
  | holds n _ =>
    have hn : n = 0 := hrefs
    exact absurd h.1 (by rw [hn]; exact Nat.lt_irrefl 0)
  | _ => exact h.elim

/-- A thread that has not loaded the count does not care what it is. -/
theorem Role.Holding.of_ne {total total' : ℕ} (h : r.Holding total)
    (hne : ∀ n b, r ≠ .holds n (some b)) : r.Holding total' := by
  cases r with
  | away => exact trivial
  | holds n lastReference =>
    cases lastReference with
    | none => exact ⟨h.1, fun b hb => by cases hb⟩
    | some b => exact absurd rfl (hne n b)
  | _ => exact h.elim

/-- A thread that has seen another reference does not care whether there is one more. -/
theorem Role.Holding.succ {total : ℕ} (h : r.Holding total) (hlt : r.refs < total) :
    r.Holding (total + 1) := by
  cases r with
  | away => exact trivial
  | holds n lastReference =>
    change n < total at hlt
    obtain ⟨hpos, hlast⟩ := h
    refine ⟨hpos, fun b hb => ?_⟩
    rw [hlast b hb, decide_eq_false (by omega), decide_eq_false (by omega)]
  | _ => exact h.elim

/-- **`net_buf_unref` by a thread that alone has loaded the count.** -/
theorem OwnershipInv.drop (h : OwnershipInv owner m role queued) {lastReference : Bool}
    (hrole : role i t = .holds 1 (some lastReference))
    (halone : ∀ n b, role i t.other ≠ .holds n (some b)) (hpointer : m.pointer i = some id) :
    ∃ owner', OwnershipInv owner' (m.netBufUnref id)
      (setRole role i t (if lastReference then .freeing else .away)) queued := by
  obtain ⟨c, hc, -⟩ := Option.bind_eq_some_iff.mp hpointer
  obtain ⟨id', hid, -, -, howner, hholding, href⟩ := h.pointer_of_holds (t := t) (by
    rw [hrole]
    exact Nat.one_pos) hc
  rw [hpointer] at hid
  obtain rfl := Option.some.inj hid
  -- what was loaded is what the count says now, since the other thread has not changed it
  have hlast : lastReference = decide (m.ref id = 1) := by
    have hself := hholding t
    rw [hrole] at hself
    exact hself.2 _ rfl
  rw [hrole] at href
  change m.ref id = 1 + (queued i + (role i t.other).refs) at href
  have hsole : ∀ j, owner id = some j → j = i := fun j hj => Option.some.inj (hj.symm.trans howner)
  by_cases hone : m.ref id = 1
  · -- the last reference: the buffer goes back to its pool
    -- the count is 1, which is this thread's reference, so there are no others
    have hqueued : queued i = 0 := by omega
    have hother : role i t.other = .away :=
      (hholding t.other).away_of_refs (by omega)
    have hfree : (m.netBufUnref id).freeBufs = id :: m.freeBufs := by
      rw [PoolMemory.netBufUnref_freeBufs, if_pos hone]
    rw [hlast, decide_eq_true hone]
    refine ⟨Function.update owner id none, h.netBuf PoolMemory.netBufUnref_contexts hsole
      (fun id' hne => ⟨Function.update_of_ne hne _ _, PoolMemory.netBufUnref_ref_of_ne hne⟩)
      (fun c hc hheld => ?_) ?_ fun id' hid' => ?_⟩
    · obtain ⟨_, _, hstate, _⟩ := h.pointer_of_holds (t := t) (by
        rw [hrole]
        exact Nat.one_pos) hc
      rw [hstate, hqueued]
      refine .closing (Function.update_self t _ _) ?_
      rw [update_other]
      exact hother
    · rw [hfree, List.nodup_cons]
      refine ⟨fun hmem => ?_, h.nodup⟩
      have hnone := h.freeList id hmem
      rw [howner] at hnone
      cases hnone
    · rw [hfree, List.mem_cons] at hid'
      -- in the free list are now this buffer and those that were there
      by_cases hne : id' = id
      · rw [hne]
        exact Function.update_self id _ _
      · rw [Function.update_of_ne hne]
        exact h.freeList id' (hid'.resolve_left hne)
  · -- the buffer stays with the others
    rw [hlast, decide_eq_false hone]
    refine ⟨owner, h.netBuf PoolMemory.netBufUnref_contexts hsole
      (fun id' hne => ⟨rfl, PoolMemory.netBufUnref_ref_of_ne hne⟩) (fun c hc _ => ?_) ?_ ?_⟩
    · obtain ⟨_, hid, hstate, hbuffer, _⟩ := h.pointer_of_holds (t := t) (by
        rw [hrole]
        exact Nat.one_pos) hc
      rw [hpointer] at hid
      obtain rfl := Option.some.inj hid
      rw [hstate, hbuffer]
      refine Owned.of_held howner trivial ((hholding t.other).of_ne halone) ?_ ?_
      · rw [PoolMemory.netBufUnref_ref_self]
        show m.ref id - 1 = 0 + _
        omega
      · rw [PoolMemory.netBufUnref_ref_self]
        omega
    · rw [PoolMemory.netBufUnref_freeBufs, if_neg hone]
      exact h.nodup
    · rw [PoolMemory.netBufUnref_freeBufs, if_neg hone]
      exact h.freeList

/-- The role that a thread has where its step leads it. -/
def UnrefPc.roleOf (next : Option UnrefPc) : Role := (next.map UnrefPc.role).getD .away

/-- **A step of `transport_buffer_unref`**, by either thread. That the other one has not loaded the
count in between is the hypothesis `halone`. -/
theorem OwnershipInv.unref (h : OwnershipInv owner m role queued) {pc : UnrefPc}
    {next : Option UnrefPc} (hrole : role i t = pc.role)
    (halone : ∀ last, pc = .netBufUnref last → ∀ n b, role i t.other ≠ .holds n (some b))
    (hstep : unrefStep m i pc = some (m', next)) :
    ∃ owner', OwnershipInv owner' m' (setRole role i t (UnrefPc.roleOf next)) queued := by
  cases pc with
  -- the thread holds a reference, and so the pointer is there
  | checkNull =>
    have hpos : 0 < (role i t).refs := by
      rw [hrole]
      exact Nat.one_pos
    unfold unrefStep at hstep
    dsimp only at hstep
    split at hstep
    · next hpointer =>
      -- the pointer of a context that is held is not NULL
      cases hstep
      refine ⟨owner, h.load fun c hc _ => ?_⟩
      obtain ⟨id, hid, _⟩ := h.pointer_of_holds hpos hc
      rw [hpointer] at hid
      cases hid
    · cases hstep
      refine ⟨owner, h.load fun c _ hc => ?_⟩
      show Owned _ _ _ _ _ (Function.update (role i) t (UnrefPc.role .checkNull)) _
      rw [← hrole, Function.update_eq_self]
      exact hc
  -- it loads whether it is the last one, and acts on that in the next step
  | loadRef =>
    have hpos : 0 < (role i t).refs := by
      rw [hrole]
      exact Nat.one_pos
    unfold unrefStep at hstep
    dsimp only at hstep
    split at hstep
    · cases hstep
    · next id hpointer =>
      cases hstep
      refine ⟨owner, h.load fun c hc _ => ?_⟩
      obtain ⟨id', hid, hstate, hbuffer, howner, hholding, href⟩ := h.pointer_of_holds hpos hc
      rw [hpointer] at hid
      obtain rfl := Option.some.inj hid
      rw [hstate, hbuffer]
      rw [hrole] at href
      refine Owned.of_held howner ⟨Nat.one_pos, ?_⟩ (hholding t.other) href ?_
      · -- what it has loaded is what the count says now
        intro b hb
        exact (Option.some.inj hb).symm
      · rw [href]
        exact Nat.add_pos_left Nat.one_pos _
  -- the step that the other thread must not have come before
  | netBufUnref lastReference =>
    unfold unrefStep at hstep
    dsimp only at hstep
    split at hstep
    · cases hstep
    · next id hpointer =>
      cases hstep
      obtain ⟨owner', hinv⟩ := h.drop hrole (halone lastReference rfl) hpointer
      refine ⟨owner', ?_⟩
      cases lastReference
      · exact hinv
      · exact hinv
  | storeFree =>
    -- nobody else is there: the other thread is away, and the context is in no FIFO
    cases hstep
    refine ⟨owner, h.store _ fun c hc hfreeing => ?_⟩
    obtain ⟨-, hother, hqueued⟩ := hfreeing.of_freeing hrole
    show Owned owner m.ref i .free c.buffer (Function.update (role i) t .nulling) (queued i)
    rw [hqueued]
    refine .free fun t' => ?_
    cases t <;> cases t' <;> simp_all [ThreadId.other, Function.update]
  -- only now the context may be used again
  | storeNull =>
    cases hstep
    exact ⟨owner, h.store _ fun c hc hnulling => hnulling.nulled hrole⟩

/-! ### The receiving thread -/

/-- Taking the role one has changes nothing. -/
theorem setRole_eq_self (h : role i t = r) : setRole role i t r = role := by
  unfold setRole
  rw [← h, Function.update_eq_self, Function.update_eq_self]

/-- A thread has its role at its context. -/
theorem roleAt_self (i : ℕ) (r : Role) : roleAt i (some (i, r)) = r := if_pos rfl

/-- A thread that is away is away from every context. -/
theorem roleAt_away (i j : ℕ) : roleAt i (some (j, .away)) = .away := ite_self _

/-- The role for context `i` where a step leads to. -/
def nextRole (i : ℕ) (next : RxNext) : Role := roleAt i (next.map fun p => (p.1, p.2.role))

/-- The thread knows no more than before, as after a load that tells it nothing. -/
theorem OwnershipInv.stay (h : OwnershipInv owner m role queued) (hrole : role i t = r) :
    OwnershipInv owner m (setRole role i t r) queued := by
  rw [setRole_eq_self hrole]
  exact h

/-- A store that concerns neither the state nor the pointer. -/
theorem OwnershipInv.store_header (h : OwnershipInv owner m role queued) (hrole : role i t = r)
    (f : ContextMemory ε → ContextMemory ε) (hstate : ∀ c, (f c).state = c.state)
    (hbuffer : ∀ c, (f c).buffer = c.buffer) :
    OwnershipInv owner (m.modify i f) (setRole role i t r) queued := by
  refine h.store f fun c _ hc => ?_
  rw [hstate, hbuffer, ← hrole, Function.update_eq_self]
  exact hc

/-- The thread has seen that the context is RECEIVING, and knows it, or leaves. -/
theorem OwnershipInv.receiving (h : OwnershipInv owner m role queued)
    (hrole : role i .receiver = .receiving ∨
      role i .receiver = .away ∧ ∀ c, m.contexts[i]? = some c → c.state = .receiving)
    (hr : r = .away ∨ r = .receiving) :
    OwnershipInv owner m (setRole role i .receiver r) queued := by
  refine h.load fun c hc howned => ?_
  obtain ⟨id, hstate, hbuffer, howner, href, hrouter, hqueued⟩ := howned.of_receiving
    (hrole.imp_right fun h => ⟨h.2 c hc, h.1⟩)
  rw [hstate, hbuffer, hqueued]
  exact .receiving hr hrouter howner href

/-- Loading the state of a context tells the thread that it is RECEIVING. -/
theorem OwnershipInv.receiving_of_load (h : OwnershipInv owner m role queued)
    (hrole : role i .receiver = .away) (hc : m.contexts[i]? = some c)
    (hstate : c.state = .receiving) (hr : r = .receiving) :
    OwnershipInv owner m (setRole role i .receiver r) queued := by
  refine h.receiving (Or.inr ⟨hrole, fun c' hc' => ?_⟩) (Or.inr hr)
  rw [hc] at hc'
  obtain rfl := Option.some.inj hc'
  exact hstate

/-- A step of the expiry loop, which destroys the buffer of a context that is RECEIVING and so
nobody else's. -/
theorem OwnershipInv.expiry (h : OwnershipInv owner m role queued) {pc : ExpiryPc} {next : RxNext}
    {now : UInt32} (hrole : role i .receiver = pc.role)
    (hstep : expiryStep m now i pc = some (m', next)) :
    ∃ owner', OwnershipInv owner' m' (setRole role i .receiver (nextRole i next)) queued := by
  cases pc with
  | loadState =>
    unfold expiryStep at hstep
    dsimp only at hstep
    split at hstep
    · -- past the last context: on to the second loop
      cases hstep
      exact ⟨owner, h.stay (hrole.trans (roleAt_away i 0).symm)⟩
    · next c hc =>
      split at hstep
      · -- RECEIVING was loaded, and the router cannot change such a context
        next hstate =>
        cases hstep
        exact ⟨owner, h.receiving_of_load hrole hc hstate (roleAt_self i _)⟩
      · cases hstep
        exact ⟨owner, h.stay (hrole.trans (roleAt_away i _).symm)⟩
  | loadLastRxTimeMs =>
    unfold expiryStep at hstep
    dsimp only at hstep
    split at hstep
    · cases hstep
    · split at hstep
      · cases hstep
        exact ⟨owner, h.receiving (Or.inl hrole) (Or.inr (roleAt_self i _))⟩
      · cases hstep
        exact ⟨owner, h.receiving (Or.inl hrole) (Or.inl (roleAt_away i _))⟩
  -- the pointer still names the buffer when it is destroyed, and nobody else's does
  | netBufDestroy =>
    unfold expiryStep at hstep
    dsimp only at hstep
    split at hstep
    · cases hstep
    · next id hpointer =>
      cases hstep
      obtain ⟨c, hc, hbuffer⟩ := Option.bind_eq_some_iff.mp hpointer
      obtain ⟨id', -, hid, howner, -, -, -⟩ := (h.owned i c hc).of_receiving (Or.inl hrole)
      rw [hbuffer] at hid
      obtain rfl := Option.some.inj hid
      refine ⟨Function.update owner id none, h.netBuf rfl
        (fun j hj => Option.some.inj (hj.symm.trans howner))
        (fun id' hne => ⟨Function.update_of_ne hne _ _, rfl⟩) (fun c' hc' howned => ?_) ?_ ?_⟩
      · -- the pointer is stale from here on
        obtain ⟨_, hstate, hbuffer, -, -, hrouter, hqueued⟩ := howned.of_receiving (Or.inl hrole)
        rw [hstate, hbuffer, hqueued]
        exact .destroyed (roleAt_self i _) hrouter
      · -- the buffer was not in the free list, as a context owned it
        refine List.nodup_cons.mpr ⟨fun hmem => ?_, h.nodup⟩
        have hnone := h.freeList id hmem
        rw [howner] at hnone
        cases hnone
      · intro id' hid'
        by_cases hne : id' = id
        · rw [hne]
          exact Function.update_self id _ _
        · rw [Function.update_of_ne hne]
          exact h.freeList id' ((List.mem_cons.mp hid').resolve_left hne)
  | storeNull =>
    cases hstep
    refine ⟨owner, h.store _ fun c _ howned => ?_⟩
    obtain ⟨hstate, hrouter, hqueued⟩ := howned.of_expiring (Or.inl hrole)
    rw [hqueued]
    show Owned owner m.ref i c.state none _ 0
    rw [hstate]
    exact .cleared (roleAt_self i _) hrouter
  -- the context is free for the next lookup only after the pointer is cleared
  | storeFree =>
    cases hstep
    refine ⟨owner, h.store _ fun c _ howned => ?_⟩
    obtain ⟨-, hrouter, hqueued⟩ := howned.of_expiring (Or.inr hrole)
    rw [hqueued]
    refine .free fun t => Or.inl ?_
    cases t
    · exact roleAt_away i _
    · exact hrouter

/-- A step of the second loop, which only loads. -/
theorem OwnershipInv.lookup (h : OwnershipInv owner m role queued) {pc : LookupPc} {next : RxNext}
    {f : RxFrame ε κ} (hrole : role i .receiver = pc.role)
    (hstep : lookupStep m f i pc = some (m', next)) :
    ∃ owner', OwnershipInv owner' m' (setRole role i .receiver (nextRole i next)) queued := by
  cases pc with
  | loadState =>
    unfold lookupStep at hstep
    dsimp only at hstep
    split at hstep
    · -- past the last context: on to the third loop for a first fragment, or NULL
      cases hstep
      refine ⟨owner, h.stay (hrole.trans ?_)⟩
      split
      · rfl
      · exact (roleAt_away i 0).symm
    · next c hc =>
      split at hstep
      · next hstate =>
        cases hstep
        exact ⟨owner, h.receiving_of_load hrole hc hstate (roleAt_self i _)⟩
      · cases hstep
        exact ⟨owner, h.stay (hrole.trans (roleAt_away i _).symm)⟩
  | compare =>
    unfold lookupStep at hstep
    dsimp only at hstep
    split at hstep
    · cases hstep
    · split at hstep
      · -- found: the thread goes on with the context, and otherwise leaves it
        cases hstep
        exact ⟨owner, h.receiving (Or.inl hrole) (Or.inr (roleAt_self i _))⟩
      · cases hstep
        exact ⟨owner, h.receiving (Or.inl hrole) (Or.inl (roleAt_away i _))⟩

/-- A step of the third loop, which finds a context FREE although a release may not be over. -/
theorem OwnershipInv.findFree (h : OwnershipInv owner m role queued) {next : RxNext}
    (hrole : role i .receiver = .away) (hstep : findFreeStep m i = some (m', next)) :
    ∃ owner', OwnershipInv owner' m' (setRole role i .receiver (nextRole i next)) queued := by
  unfold findFreeStep at hstep
  split at hstep
  · -- no context is left to look at: the lookup fails, and nothing has been touched
    cases hstep
    exact ⟨owner, h.stay hrole⟩
  · next c hc =>
    split at hstep
    · -- FREE was loaded: the router cannot hold the context, although it may not have cleared the
      -- pointer yet
      next hstate =>
      cases hstep
      refine ⟨owner, h.load fun c' hc' howned => ?_⟩
      rw [hc] at hc'
      obtain rfl := Option.some.inj hc'
      rw [hstate] at howned ⊢
      obtain ⟨hrouter, hqueued⟩ := howned.of_free hrole
      rw [hqueued]
      exact .found (roleAt_self i _) hrouter fun id hid => by cases hid
    · cases hstep
      exact ⟨owner, h.stay (hrole.trans (roleAt_away i _).symm)⟩

/-- A step of `transport_buffer_write`, which works on a RECEIVING context and at last gives it
away. -/
theorem OwnershipInv.write (h : OwnershipInv owner m role queued) {pc : WritePc} {next : RxNext}
    {f : RxFrame ε κ} {now : UInt32} (hrole : role i .receiver = .receiving)
    (hstep : writeStep m f now i pc = some (m', next)) :
    ∃ owner', OwnershipInv owner' m' (setRole role i .receiver (nextRole i next)) queued := by
  have hmark := hrole.trans (roleAt_self i .receiving).symm
  cases pc with
  | mark =>
    cases hstep
    exact ⟨owner, h.store_header hmark _ (fun _ => rfl) fun _ => rfl⟩
  -- a frame that fails a check ends the write, and the context stays RECEIVING
  | checkFragment =>
    unfold writeStep at hstep
    dsimp only at hstep
    split at hstep
    · cases hstep
    · split at hstep
      · cases hstep
        exact ⟨owner, h.receiving (Or.inl hrole) (Or.inl rfl)⟩
      · cases hstep
        exact ⟨owner, h.stay hmark⟩
  | checkOverrun =>
    unfold writeStep at hstep
    dsimp only at hstep
    split at hstep
    · split at hstep
      · cases hstep
        exact ⟨owner, h.receiving (Or.inl hrole) (Or.inl rfl)⟩
      · cases hstep
        exact ⟨owner, h.stay hmark⟩
    · cases hstep
  | addMem =>
    unfold writeStep at hstep
    dsimp only at hstep
    split at hstep
    · cases hstep
    · next id hpointer =>
      cases hstep
      refine ⟨owner, ?_⟩
      -- the bytes change, the counts do not
      rw [show nextRole i (some (i, .write .storeLastRxTimeMs)) = .receiving from roleAt_self i _,
        setRole_eq_self hrole]
      refine ⟨fun j c hc => ?_, h.nodup, h.freeList⟩
      rw [PoolMemory.netBufAddMem_ref]
      exact h.owned j c hc
  | storeLastRxTimeMs =>
    cases hstep
    exact ⟨owner, h.store_header hmark _ (fun _ => rfl) fun _ => rfl⟩
  | incrementFragIdx =>
    cases hstep
    exact ⟨owner, h.store_header hmark _ (fun _ => rfl) fun _ => rfl⟩
  | checkComplete =>
    unfold writeStep at hstep
    dsimp only at hstep
    split at hstep
    · cases hstep
    · split at hstep
      · cases hstep
        exact ⟨owner, h.stay hmark⟩
      · cases hstep
        exact ⟨owner, h.receiving (Or.inl hrole) (Or.inl rfl)⟩
  | checkFinalSize =>
    unfold writeStep at hstep
    dsimp only at hstep
    split at hstep
    · split at hstep
      · cases hstep
        exact ⟨owner, h.receiving (Or.inl hrole) (Or.inl rfl)⟩
      · cases hstep
        exact ⟨owner, h.stay hmark⟩
    · cases hstep
  -- the one store that gives the context away
  | storeReferenced =>
    cases hstep
    refine ⟨owner, h.store _ fun c _ howned => ?_⟩
    obtain ⟨id, -, hbuffer, howner, href, hrouter, hqueued⟩ := howned.of_receiving (Or.inl hrole)
    -- the reference of the allocation is the one that the transport now holds
    show Owned owner m.ref i .referenced c.buffer (Function.update (role i) .receiver _) _
    rw [hbuffer, hqueued, show nextRole i (some (i, .callback .checkRegistered)) = .holds 1 none from
      roleAt_self i _]
    refine Owned.of_held howner ⟨Nat.one_pos, fun b hb => by cases hb⟩ ?_ ?_ ?_
    · show (role i .router).Holding _
      rw [hrouter]
      trivial
    · show m.ref id = 1 + (0 + (role i .router).refs)
      rw [href, hrouter]
      rfl
    · rw [href]
      exact Nat.one_pos

/-- `net_buf_alloc` takes a buffer that nobody owns, since none on the free list is owned. -/
theorem OwnershipInv.netBufAlloc (h : OwnershipInv owner m role queued)
    (hrole : role i .receiver = .found none) :
    ∃ owner', OwnershipInv owner' m.netBufAlloc.2
      (setRole role i .receiver (.found m.netBufAlloc.1)) queued := by
  cases hfree : m.freeBufs with
  | nil =>
    -- the allocation fails and nothing changes
    have halloc : m.netBufAlloc = (none, m) := by
      unfold PoolMemory.netBufAlloc
      rw [hfree]
    rw [halloc]
    exact ⟨owner, h.stay hrole⟩
  | cons id rest =>
    have halloc : m.netBufAlloc = (some id, { m.setNetBuf id ⟨1, []⟩ with freeBufs := rest }) := by
      unfold PoolMemory.netBufAlloc
      rw [hfree]
    have hnone : owner id = none := h.freeList id (by rw [hfree]; exact List.mem_cons_self)
    have hnodup := h.nodup
    rw [hfree, List.nodup_cons] at hnodup
    rw [halloc]
    refine ⟨Function.update owner id (some i), h.netBuf rfl (fun j hj => ?_)
      (fun id' hne => ⟨Function.update_of_ne hne _ _, PoolMemory.setNetBuf_ref_of_ne hne⟩)
      (fun c _ howned => ?_) hnodup.2 fun id' hid' => ?_⟩
    · rw [hnone] at hj
      cases hj
    · -- the context is FREE, and the pointer is not stored in it yet
      obtain ⟨hstate, hrouter, -, hqueued⟩ := howned.of_found hrole
      rw [hstate, hqueued]
      refine .found (Function.update_self _ _ _) hrouter fun id' hid' => ?_
      obtain rfl := Option.some.inj hid'
      exact ⟨Function.update_self _ _ _, PoolMemory.setNetBuf_ref_self⟩
    · have hne : id' ≠ id := by
        rintro rfl
        exact hnodup.1 hid'
      rw [Function.update_of_ne hne]
      exact h.freeList id' (by rw [hfree]; exact List.mem_cons_of_mem _ hid')

/-- A step of the allocation. The pointer may be stored only when no release is about to clear it,
which is `hbetween`. -/
theorem OwnershipInv.alloc (h : OwnershipInv owner m role queued) {pc : AllocPc} {next : RxNext}
    {f : RxFrame ε κ} {now : UInt32} (hrole : role i .receiver = pc.role)
    (hbetween : ∀ id, pc = .storeBuffer (some id) → role i .router ≠ .nulling)
    (hstep : allocStep m f now i pc = some (m', next)) :
    ∃ owner', OwnershipInv owner' m' (setRole role i .receiver (nextRole i next)) queued := by
  cases pc with
  -- the buffer that the allocation takes is owned from now on, though no context points to it yet
  | netBufAlloc =>
    cases hstep
    obtain ⟨owner', hinv⟩ := h.netBufAlloc hrole
    refine ⟨owner', ?_⟩
    rw [show nextRole i (some (i, .alloc (.storeBuffer m.netBufAlloc.1))) =
      .found m.netBufAlloc.1 from roleAt_self i _]
    exact hinv
  | storeBuffer buffer =>
    cases hstep
    refine ⟨owner, h.store _ fun c _ howned => ?_⟩
    obtain ⟨hstate, hrouter, hallocated, hqueued⟩ := howned.of_found hrole
    rw [hqueued]
    show Owned owner m.ref i c.state buffer _ 0
    rw [hstate]
    refine .filling (roleAt_self i _) hrouter (fun id hid => ?_) fun hc => by cases hc
    obtain ⟨howner, href⟩ := hallocated id hid
    -- the router is not between its two stores
    have hne := hbetween id (by rw [show buffer = some id from hid])
    exact ⟨howner, href, hrouter.resolve_right hne⟩
  | checkNull =>
    unfold allocStep at hstep
    dsimp only at hstep
    split at hstep
    · next hpointer =>
      -- the pool of `net_buf`s was empty: the context stays FREE
      cases hstep
      refine ⟨owner, h.load fun c hc howned => ?_⟩
      obtain ⟨hstate, hrouter, -, -, hqueued⟩ := howned.of_filling hrole
      rw [hstate, hqueued]
      refine .free fun t => ?_
      cases t
      · exact Or.inl rfl
      · exact hrouter
    · next id hpointer =>
      cases hstep
      refine ⟨owner, h.load fun c hc howned => ?_⟩
      obtain ⟨hstate, hrouter, hbuffer, -, hqueued⟩ := howned.of_filling hrole
      rw [m.pointer_eq hc] at hpointer
      rw [hstate, hqueued]
      refine .filling (roleAt_self i _) hrouter hbuffer fun _ => ?_
      rw [hpointer]
      exact Option.some_ne_none id
  -- the five fields of the header, in whichever order: none of them is state or pointer
  | storeHeader field =>
    cases hstep
    refine ⟨owner, h.store_header (hrole.trans ?_) _ (fun c => ?_) fun c => ?_⟩
    · cases field <;> exact (roleAt_self i (.filling true)).symm
    · cases field <;> rfl
    · cases field <;> rfl
  | storeReceiving =>
    cases hstep
    refine ⟨owner, h.store _ fun c _ howned => ?_⟩
    obtain ⟨-, -, hbuffer, hchecked, hqueued⟩ := howned.of_filling hrole
    -- the pointer that has been checked is still there, as the router is away
    obtain ⟨id, hid⟩ := Option.ne_none_iff_exists'.mp (hchecked rfl)
    obtain ⟨howner, href, hrouter⟩ := hbuffer id hid
    rw [hqueued]
    show Owned owner m.ref i .receiving c.buffer _ 0
    rw [hid]
    exact .receiving (Or.inr (roleAt_self i _)) hrouter howner href

/-- A step of the callback, which raises the count before the router can see the context. -/
theorem OwnershipInv.callback (h : OwnershipInv owner m role queued) {registered : Bool}
    {pc : CallbackPc} {next : RxNext} (hrole : role i .receiver = pc.role)
    (hpc : pc ≠ .enqueue) (hstep : callbackStep registered m i pc = some (m', next)) :
    ∃ owner', OwnershipInv owner' m' (setRole role i .receiver (nextRole i next)) queued := by
  -- the transport goes on holding its one reference
  have hholds : ∀ {r : RxPc}, r.role = .holds 1 none → role i .receiver = .holds 1 none →
      role i .receiver = nextRole i (some (i, r)) := by
    intro r hr hi
    rw [hi, ← hr]
    exact (roleAt_self i _).symm
  cases pc with
  | checkRegistered =>
    cases hstep
    refine ⟨owner, h.stay (hholds ?_ hrole)⟩
    split <;> rfl
  | checkSize =>
    unfold callbackStep at hstep
    dsimp only at hstep
    split at hstep
    · cases hstep
    · split at hstep
      · cases hstep
        exact ⟨owner, h.stay (hholds rfl hrole)⟩
      · cases hstep
        exact ⟨owner, h.stay (hholds rfl hrole)⟩
  | checkNull =>
    unfold callbackStep at hstep
    dsimp only at hstep
    split at hstep
    · next hpointer =>
      -- the transport's own reference keeps the pointer
      cases hstep
      refine ⟨owner, h.load fun c hc _ => ?_⟩
      obtain ⟨id, hid, _⟩ := h.pointer_of_holds (t := .receiver) (by
        rw [hrole]
        exact Nat.one_pos) hc
      rw [hpointer] at hid
      cases hid
    · cases hstep
      exact ⟨owner, h.stay (hholds rfl hrole)⟩
  -- the count goes up: the transport holds two references until it has queued the context
  | netBufRef =>
    unfold callbackStep at hstep
    dsimp only at hstep
    split at hstep
    · cases hstep
    · next id hpointer =>
      cases hstep
      have hpos : 0 < (role i .receiver).refs := by
        rw [hrole]
        exact Nat.one_pos
      obtain ⟨c, hc, -⟩ := Option.bind_eq_some_iff.mp hpointer
      -- the pointer is that of a context which is held, so the count is one of holders
      obtain ⟨id', hid, -, -, howner, hholding, href⟩ := h.pointer_of_holds hpos hc
      rw [hpointer] at hid
      obtain rfl := Option.some.inj hid
      rw [hrole] at href
      change m.ref id = 1 + (queued i + (role i .router).refs) at href
      refine ⟨owner, h.netBuf rfl (fun j hj => Option.some.inj (hj.symm.trans howner))
        (fun id' hne => ⟨rfl, PoolMemory.netBufRef_ref_of_ne hne⟩) (fun c' hc' _ => ?_)
        h.nodup h.freeList⟩
      obtain ⟨_, hid, hstate, hbuffer, _⟩ := h.pointer_of_holds hpos hc'
      rw [hpointer] at hid
      obtain rfl := Option.some.inj hid
      rw [hstate, hbuffer, show nextRole i (some (i, .callback .enqueue)) = .holds 2 none from
        roleAt_self i _]
      refine Owned.of_held howner ⟨Nat.two_pos, fun b hb => by cases hb⟩ ?_ ?_ ?_
      · -- what the other thread may have loaded before stays right: the count was not 1 for it
        rw [PoolMemory.netBufRef_ref_self]
        refine (hholding .router).succ ?_
        rw [href]
        omega
      · rw [PoolMemory.netBufRef_ref_self]
        show m.ref id + 1 = 2 + (queued i + (role i .router).refs)
        omega
      · rw [PoolMemory.netBufRef_ref_self]
        exact Nat.succ_pos _
  | enqueue => exact absurd rfl hpc

/-- **A step of the receiving thread**, up to the FIFO. -/
theorem OwnershipInv.rx (h : OwnershipInv owner m role queued) {registered : Bool} {pc : RxPc}
    {next : RxNext} {f : RxFrame ε κ} {now : UInt32} (hrole : role i .receiver = pc.role)
    (hpc : pc ≠ .callback .enqueue)
    (halone : ∀ last, pc = .unref (.netBufUnref last) → ∀ n b, role i .router ≠ .holds n (some b))
    (hbetween : ∀ id, pc = .alloc (.storeBuffer (some id)) → role i .router ≠ .nulling)
    (hstep : rxStep registered m f now i pc = some (m', next)) :
    ∃ owner', OwnershipInv owner' m' (setRole role i .receiver (nextRole i next)) queued := by
  cases pc with
  | expiry pc => exact h.expiry hrole hstep
  | lookup pc => exact h.lookup hrole hstep
  | findFree => exact h.findFree hrole hstep
  | alloc pc => exact h.alloc hrole (fun id hid => hbetween id (congrArg _ hid)) hstep
  | write pc => exact h.write hrole hstep
  | callback pc => exact h.callback hrole (fun heq => hpc (congrArg _ heq)) hstep
  | unref pc =>
    -- the unref of a completed context is shared with the router, and so is the lemma about it
    unfold rxStep at hstep
    obtain ⟨⟨m'', next'⟩, hunref, heq⟩ := Option.map_eq_some_iff.mp hstep
    cases heq
    obtain ⟨owner', hinv⟩ := h.unref hrole (fun last hlast => halone last (congrArg _ hlast)) hunref
    refine ⟨owner', ?_⟩
    cases next' with
    | none => exact hinv
    | some pc' =>
      rw [show nextRole i ((some pc').map fun pc => (i, .unref pc)) = UnrefPc.roleOf (some pc') from
        roleAt_self i _]
      exact hinv

/-- A step of the receiving thread leads to the same context, or to one it knows nothing about. -/
theorem rxStep_next {registered : Bool} {pc : RxPc} {p : ℕ × RxPc} {f : RxFrame ε κ} {now : UInt32}
    (hstep : rxStep registered m f now i pc = some (m', some p)) : p.1 = i ∨ p.2.role = .away := by
  -- the loops go on to the next context, or to the first one, without having looked at it
  cases pc with
  | expiry pc => cases pc <;> grind [rxStep, expiryStep, RxPc.role, ExpiryPc.role, LookupPc.role]
  | lookup pc => cases pc <;> grind [rxStep, lookupStep, RxPc.role, LookupPc.role]
  | findFree => grind [rxStep, findFreeStep, RxPc.role]
  | alloc pc => cases pc <;> grind [rxStep, allocStep]
  | write pc => cases pc <;> grind [rxStep, writeStep]
  | callback pc => cases pc <;> grind [rxStep, callbackStep]
  | unref pc =>
    unfold rxStep at hstep
    obtain ⟨r, -, heq⟩ := Option.map_eq_some_iff.mp hstep
    obtain ⟨pc', -, rfl⟩ := Option.map_eq_some_iff.mp (Prod.mk.inj heq).2
    exact Or.inl rfl

/-- **A reference passes between a thread and the FIFO**, so the count is the same as before. -/
theorem OwnershipInv.handOver (h : OwnershipInv owner m role queued) {n k : ℕ} (hn : 0 < n)
    (hrefs : n + k = (role i t).refs + queued i) :
    OwnershipInv owner m (setRole role i t (.holds n none)) (Function.update queued i k) := by
  refine h.at_context i (fun _ _ => rfl) (fun j hj => setRole_of_ne hj)
    (fun j hj => Function.update_of_ne hj _ _) (fun id j _ hid => ⟨hid, rfl⟩) (fun c hc => ?_)
    h.nodup h.freeList
  obtain ⟨id, hstate, hbuffer, howner, hholding, href⟩ := (h.owned i c hc).of_holders (by
    rw [refs_add _ _ t]
    omega)
  rw [refs_add _ _ t] at href
  rw [hstate, hbuffer, setRole_self, Function.update_self]
  refine Owned.of_held howner ⟨hn, fun b hb => by cases hb⟩ (hholding t.other) ?_ ?_
  · show m.ref id = n + (k + _)
    omega
  · omega

/-! ### The two threads -/

/-- The context whose count a thread has loaded to drop its reference. -/
def Interleaving.droppingAt (s : Interleaving ε κ) (t : ThreadId) : Option ℕ :=
  match s.position t with
  | some (i, .holds _ (some _)) => some i
  | _ => none

/-- The context that a thread has given up, and is about to mark FREE. -/
def Interleaving.freeingAt (s : Interleaving ε κ) (t : ThreadId) : Option ℕ :=
  match s.position t with
  | some (i, .freeing) => some i
  | _ => none

/-- The context that a thread has marked FREE, and whose pointer it is about to clear. -/
def Interleaving.clearingAt (s : Interleaving ε κ) (t : ThreadId) : Option ℕ :=
  match s.position t with
  | some (i, .nulling) => some i
  | _ => none

/-- The timed out context whose pointer the receiving thread has cleared, and which it is about to
mark FREE. -/
def Interleaving.expiringAt (s : Interleaving ε κ) : Option ℕ :=
  match s.position .receiver with
  | some (i, .cleared) => some i
  | _ => none

/-- The context that has received the pointer to its new `net_buf`, and is about to be marked
RECEIVING. -/
def Interleaving.fillingAt (s : Interleaving ε κ) : Option ℕ :=
  match s.position .receiver with
  | some (i, .filling _) => some i
  | _ => none

/-- The context that is about to receive the pointer to a `net_buf`. -/
def Interleaving.storingAt (s : Interleaving ε κ) : Option ℕ :=
  match s.position .receiver with
  | some (i, .found (some _)) => some i
  | _ => none

/-- A step out of the two bad schedules: no thread drops a reference between the other one's load of
the count and its drop, and no pointer is stored between the router's stores of FREE and NULL. -/
def Undisturbed (s : Interleaving ε κ) : InterleavingAction ε κ → Prop
  | .step t _ =>
    (∀ i ∈ s.droppingAt t, s.droppingAt t.other ≠ some i) ∧
      (t = .receiver → ∀ i ∈ s.storingAt, s.clearingAt .router ≠ some i)
  | _ => True

section Threads

variable {s s' : Interleaving ε κ}

/-- A thread moves: its role changes for the context it is at. -/
theorem Interleaving.role_eq_setRole (hother : s'.position t.other = s.position t.other)
    (hat : ∀ j, j ≠ i → s.role j t = .away) (hat' : ∀ j, j ≠ i → s'.role j t = .away)
    (hi : s'.role i t = r) : s'.role = setRole s.role i t r := by
  have hrole : ∀ j, s'.role j t.other = s.role j t.other := by
    intro j
    unfold Interleaving.role
    rw [hother]
  funext j t'
  have ht : t' = t ∨ t' = t.other := by cases t <;> cases t' <;> simp [ThreadId.other]
  -- at its context the role is the new one, and away from it the thread was and is away
  by_cases hj : j = i
  · rw [hj, setRole_self]
    rcases ht with rfl | rfl
    · rw [Function.update_self]
      exact hi
    · rw [update_other]
      exact hrole i
  · rw [setRole_of_ne hj]
    rcases ht with rfl | rfl
    · rw [hat j hj, hat' j hj]
    · exact hrole j

/-- A thread with a role for a context is at it. -/
theorem Interleaving.position_of_role (hrole : s.role i t = r) (hr : r ≠ .away) :
    s.position t = some (i, r) := by
  unfold Interleaving.role roleAt at hrole
  split at hrole
  · next j r' hposition =>
    split at hrole
    · next hji => rw [hposition, hji, hrole]
    · exact absurd hrole.symm hr
  · exact absurd hrole.symm hr

/-- Nobody else has loaded the count when a thread drops its reference. -/
theorem Undisturbed.alone {now : UInt32} {n : ℕ} {b : Bool}
    (h : Undisturbed s (.step t now)) (hrole : s.role i t = .holds n (some b)) :
    ∀ n b, s.role i t.other ≠ .holds n (some b) := by
  intro n' b' hother
  have hmine : s.droppingAt t = some i := by
    unfold Interleaving.droppingAt
    rw [Interleaving.position_of_role hrole Role.noConfusion]
  refine h.1 i hmine ?_
  unfold Interleaving.droppingAt
  rw [Interleaving.position_of_role hother Role.noConfusion]

/-- The router is not between its last two stores when the pointer is stored. -/
theorem Undisturbed.between {now : UInt32} {id : ℕ} (h : Undisturbed s (.step .receiver now))
    (hrole : s.role i .receiver = .found (some id)) : s.role i .router ≠ .nulling := by
  intro hrouter
  have hmine : s.storingAt = some i := by
    unfold Interleaving.storingAt
    rw [Interleaving.position_of_role hrole Role.noConfusion]
  refine h.2 rfl i hmine ?_
  unfold Interleaving.clearingAt
  rw [Interleaving.position_of_role hrouter Role.noConfusion]

/-- The invariant in a state of the two threads, for some assignment of owners. -/
def Interleaving.Consistent (s : Interleaving ε κ) : Prop :=
  ∃ owner, OwnershipInv owner s.memory s.role fun i => s.fifo.count i

/-- The role of the receiving thread while it handles a frame. -/
theorem Interleaving.role_of_receiver {thread : ReceivingThread ε κ}
    (hthread : s.receiver = some thread) (j : ℕ) :
    s.role j .receiver = if thread.context = j then thread.pc.role else .away := by
  unfold Interleaving.role Interleaving.position
  rw [hthread]
  rfl

/-- The role of the router thread while it has a buffer. -/
theorem Interleaving.role_of_router {thread : RouterThread} (hthread : s.router = some thread)
    (j : ℕ) : s.role j .router = if thread.context = j then thread.pc.role else .away := by
  unfold Interleaving.role Interleaving.position
  rw [hthread]
  rfl

/-- A step of the receiving thread, with the FIFO that it may append to. -/
theorem Interleaving.Consistent.receiver {registered : Bool} {now : UInt32} (h : s.Consistent)
    (hC : Undisturbed s (.step .receiver now))
    (hstep : s.step registered (.step .receiver now) = some s') : s'.Consistent := by
  obtain ⟨owner, hinv⟩ := h
  unfold Interleaving.step at hstep
  dsimp only at hstep
  split at hstep
  · cases hstep
  · next thread hthread =>
    obtain ⟨⟨m', next⟩, hrx, rfl⟩ := Option.map_eq_some_iff.mp hstep
    have hrole : s.role thread.context .receiver = thread.pc.role := by
      rw [Interleaving.role_of_receiver hthread, if_pos rfl]
    -- only the role of this thread for its context changes
    have hroles : ∀ fifo, Interleaving.role
        ⟨m', next.map fun p => ⟨thread.frame, p.1, p.2⟩, fifo, s.router⟩ =
          setRole s.role thread.context .receiver (nextRole thread.context next) := by
      intro fifo
      have hself : ∀ j, Interleaving.role
          ⟨m', next.map fun p => ⟨thread.frame, p.1, p.2⟩, fifo, s.router⟩ j .receiver =
            nextRole j next := by
        intro j
        cases next <;> rfl
      refine Interleaving.role_eq_setRole rfl (fun j hj => ?_) (fun j hj => ?_) (hself _)
      · rw [Interleaving.role_of_receiver hthread, if_neg hj.symm]
      · rw [hself]
        cases next with
        | none => rfl
        | some p =>
          rcases rxStep_next hrx with hp | hp
          · show (if p.1 = j then p.2.role else .away) = Role.away
            rw [hp, if_neg hj.symm]
          · show (if p.1 = j then p.2.role else .away) = Role.away
            rw [hp, ite_self]
    by_cases henqueue : thread.pc = .callback .enqueue
    · -- the reference that was taken for the router passes to the FIFO
      rw [henqueue] at hrx hrole
      cases hrx
      refine ⟨owner, ?_⟩
      rw [hroles, if_pos henqueue]
      have hcount : (fun j => (s.fifo ++ [thread.context]).count j) =
          Function.update (fun j => s.fifo.count j) thread.context
            (s.fifo.count thread.context + 1) := by
        funext j
        rw [List.count_append, List.count_singleton]
        by_cases hj : j = thread.context
        · rw [hj, Function.update_self, beq_self_eq_true, if_pos rfl]
        · rw [Function.update_of_ne hj, if_neg (by simpa using Ne.symm hj), Nat.add_zero]
      rw [show nextRole thread.context (some (thread.context, .unref .checkNull)) = .holds 1 none from
        roleAt_self _ _, hcount]
      refine hinv.handOver Nat.one_pos ?_
      rw [hrole]
      show 1 + _ = 2 + _
      omega
    · -- a step that appends nothing: what the two assumptions exclude is what its lemma asks for
      rw [if_neg henqueue]
      have halone : ∀ last, thread.pc = .unref (.netBufUnref last) →
          ∀ n b, s.role thread.context .router ≠ .holds n (some b) := by
        intro last hlast
        rw [hlast] at hrole
        exact hC.alone hrole
      have hbetween : ∀ id, thread.pc = .alloc (.storeBuffer (some id)) →
          s.role thread.context .router ≠ .nulling := by
        intro id hid
        rw [hid] at hrole
        exact hC.between hrole
      obtain ⟨owner', hinv'⟩ := hinv.rx hrole henqueue halone hbetween hrx
      refine ⟨owner', ?_⟩
      rw [hroles]
      exact hinv'

/-- A step of the router thread, which does not touch the FIFO. -/
theorem Interleaving.Consistent.router {registered : Bool} {now : UInt32} (h : s.Consistent)
    (hC : Undisturbed s (.step .router now))
    (hstep : s.step registered (.step .router now) = some s') : s'.Consistent := by
  obtain ⟨owner, hinv⟩ := h
  unfold Interleaving.step at hstep
  dsimp only at hstep
  split at hstep
  · cases hstep
  · next thread hthread =>
    obtain ⟨⟨m', next⟩, hrouter, rfl⟩ := Option.map_eq_some_iff.mp hstep
    have hrole : s.role thread.context .router = thread.pc.role := by
      rw [Interleaving.role_of_router hthread, if_pos rfl]
    -- only the role of this thread at its context changes
    have hroles : Interleaving.role
        ⟨m', s.receiver, s.fifo, next.map fun pc => ⟨thread.context, pc⟩⟩ =
          setRole s.role thread.context .router ((next.map RouterThreadPc.role).getD .away) := by
      have hself : ∀ j, Interleaving.role
          ⟨m', s.receiver, s.fifo, next.map fun pc => ⟨thread.context, pc⟩⟩ j .router =
            if thread.context = j then (next.map RouterThreadPc.role).getD .away else .away := by
        intro j
        cases next
        · exact (ite_self _).symm
        · rfl
      refine Interleaving.role_eq_setRole rfl (fun j hj => ?_) (fun j hj => ?_) ?_
      · rw [Interleaving.role_of_router hthread, if_neg hj.symm]
      · rw [hself, if_neg hj.symm]
      · rw [hself, if_pos rfl]
    cases hpc : thread.pc with
    -- the writes of the forward function read the context, and change nothing of it
    | forward =>
      rw [hpc] at hrouter hrole
      unfold routerStep at hrouter
      dsimp only at hrouter
      split at hrouter
      · cases hrouter
      · cases hrouter
        refine ⟨owner, ?_⟩
        rw [hroles]
        exact hinv.stay hrole
    | unref pc =>
      rw [hpc] at hrouter hrole
      unfold routerStep at hrouter
      obtain ⟨⟨m'', next'⟩, hunref, heq⟩ := Option.map_eq_some_iff.mp hrouter
      cases heq
      -- the condition: the receiver is not in the middle of dropping its own reference
      have halone : ∀ last, pc = .netBufUnref last →
          ∀ n b, s.role thread.context .receiver ≠ .holds n (some b) := by
        intro last hlast
        rw [hlast] at hrole
        exact hC.alone hrole
      obtain ⟨owner', hinv'⟩ := hinv.unref hrole halone hunref
      refine ⟨owner', ?_⟩
      rw [hroles]
      cases next'
      · exact hinv'
      · exact hinv'

/-- **One step** of a run that is undisturbed. -/
theorem Interleaving.Consistent.step {registered : Bool} {x : InterleavingAction ε κ}
    (h : s.Consistent) (hC : Undisturbed s x) (hstep : s.step registered x = some s') :
    s'.Consistent := by
  cases x with
  | frame f =>
    obtain ⟨owner, hinv⟩ := h
    unfold Interleaving.step at hstep
    dsimp only at hstep
    split at hstep
    · cases hstep
    · next hthread =>
      split at hstep
      · cases hstep
        exact ⟨owner, hinv⟩
      · cases hstep
        refine ⟨owner, ?_⟩
        -- the receiver starts away from every context
        have hroles : Interleaving.role
            ⟨s.memory, some ⟨f, 0, .expiry .loadState⟩, s.fifo, s.router⟩ = s.role := by
          funext j t
          unfold Interleaving.role Interleaving.position
          cases t
          · show roleAt j (some (0, .away)) = roleAt j (s.receiver.map _)
            rw [hthread, roleAt_away]
            rfl
          · rfl
        rw [hroles]
        exact hinv
  | dequeue =>
    obtain ⟨owner, hinv⟩ := h
    unfold Interleaving.step at hstep
    dsimp only at hstep
    split at hstep
    · next i rest hrouter hfifo =>
      cases hstep
      refine ⟨owner, ?_⟩
      have haway : ∀ j, s.role j .router = .away := by
        intro j
        unfold Interleaving.role Interleaving.position
        rw [hrouter]
        rfl
      have hroles : Interleaving.role ⟨s.memory, s.receiver, rest, some ⟨i, .forward⟩⟩ =
          setRole s.role i .router (.holds 1 none) :=
        Interleaving.role_eq_setRole rfl (fun j _ => haway j) (fun j hj => if_neg hj.symm)
          (if_pos rfl)
      -- the entry that leaves the FIFO is the reference that the thread holds
      have hcount : (fun j => rest.count j) =
          Function.update (fun j => s.fifo.count j) i (rest.count i) := by
        funext j
        by_cases hj : j = i
        · rw [hj, Function.update_self]
        · rw [Function.update_of_ne hj, hfifo, List.count_cons_of_ne (Ne.symm hj)]
      rw [hroles]
      show OwnershipInv owner s.memory _ fun j => rest.count j
      rw [hcount]
      refine hinv.handOver Nat.one_pos ?_
      rw [haway, hfifo, List.count_cons_self]
      show 1 + _ = 0 + _
      omega
    · cases hstep
  | step t now =>
    cases t with
    | receiver => exact h.receiver hC hstep
    | router => exact h.router hC hstep

end Threads

end OwnershipInv

/-- At the start every `net_buf` is on the free list. -/
theorem Interleaving.Consistent.init (numBuffers : ℕ) (rxTimeoutMs : UInt32)
    (api : Option (ε → Option κ → Bool)) (ext : ε) :
    (Interleaving.init numBuffers rxTimeoutMs api ext).Consistent := by
  refine ⟨fun _ => none, fun i c hc => ?_, List.nodup_range, fun _ _ => rfl⟩
  obtain rfl := List.eq_of_mem_replicate (List.mem_of_getElem? hc)
  exact .free fun t => by cases t <;> exact Or.inl rfl

section Consistent

variable {s : Interleaving ε κ} {i : ℕ} {c : ContextMemory ε} {t : ThreadId}

/-- A thread at a context has its role there. -/
theorem Interleaving.role_of_position {r : Role} (h : s.position t = some (i, r)) :
    s.role i t = r := by
  unfold Interleaving.role
  rw [h, roleAt_self]

/-- A RECEIVING context has a buffer, but for the moment in which a timeout takes it away. -/
theorem Interleaving.Consistent.buffer_ne_none (h : s.Consistent)
    (hc : s.memory.contexts[i]? = some c) (hstate : c.state = .receiving)
    (hexpiring : s.expiringAt ≠ some i) : c.buffer ≠ none := by
  obtain ⟨owner, hinv⟩ := h
  have howned := hinv.owned i c hc
  intro hnone
  rw [hstate, hnone] at howned
  generalize s.fifo.count i = queued at howned
  cases howned with
  | cleared hreceiver =>
    refine hexpiring ?_
    unfold Interleaving.expiringAt
    rw [Interleaving.position_of_role hreceiver Role.noConfusion]

/-- **A release does not clear the pointer of a later use.** -/
theorem Interleaving.Consistent.clearing (h : s.Consistent) (ht : s.clearingAt t = some i)
    (hc : s.memory.contexts[i]? = some c) :
    c.state = .free ∧ (s.fillingAt = some i → c.buffer = none) := by
  obtain ⟨owner, hinv⟩ := h
  have howned := hinv.owned i c hc
  -- the thread is between its two stores of the release
  have hrole : s.role i t = .nulling := by
    unfold Interleaving.clearingAt at ht
    split at ht
    · next hposition =>
      obtain rfl := Option.some.inj ht
      exact Interleaving.role_of_position hposition
    · cases ht
  refine ⟨(howned.of_nulling hrole).1, fun hfilling => ?_⟩
  unfold Interleaving.fillingAt at hfilling
  split at hfilling
  · next hposition =>
    obtain rfl := Option.some.inj hfilling
    have hfill := Interleaving.role_of_position hposition
    obtain ⟨-, -, hbuffer, -⟩ := howned.of_filling hfill
    -- were there a pointer, the router would be away
    rw [Option.eq_none_iff_forall_not_mem]
    intro id hid
    have haway := (hbuffer id hid).2.2
    cases t with
    | receiver => rw [hrole] at hfill; cases hfill
    | router => rw [hrole] at haway; cases haway
  · cases hfilling

/-- **A REFERENCED context is held**, by as many as its buffer counts, or just being freed. -/
theorem Interleaving.Consistent.referenced (h : s.Consistent)
    (hc : s.memory.contexts[i]? = some c) (hstate : c.state = .referenced) :
    (∃ id, c.buffer = some id ∧ s.memory.ref id = s.holders i ∧ 0 < s.holders i ∧
      id ∉ s.memory.freeBufs) ∨ s.holders i = 0 ∧ ∃ t, s.freeingAt t = some i := by
  obtain ⟨owner, hinv⟩ := h
  have howned := hinv.owned i c hc
  rw [hstate] at howned
  generalize hbuffer : c.buffer = buffer at howned
  generalize hqueued : s.fifo.count i = queued at howned
  cases howned with
  -- its buffer has an owner, so it is not in the free list
  | @held id _ _ hrole href hpos howner =>
    refine Or.inl ⟨id, rfl, ?_, ?_, fun hmem => ?_⟩
    · unfold Interleaving.holders
      rw [hqueued]
      exact href
    · unfold Interleaving.holders
      rw [hqueued, ← href]
      exact hpos
    · have hnone := hinv.freeList id hmem
      rw [howner] at hnone
      cases hnone
  | @closing _ _ t hrole hother =>
    -- the last reference is gone, and thread `t` is about to store FREE
    refine Or.inr ⟨?_, t, ?_⟩
    · unfold Interleaving.holders
      rw [refs_add _ _ t, hrole, hother, hqueued]
      rfl
    · unfold Interleaving.freeingAt
      rw [Interleaving.position_of_role hrole Role.noConfusion]

end Consistent

/-- **Ownership survives every undisturbed interleaving.** In every state that the two threads can
reach, load by load and store by store:

* a RECEIVING context has a buffer, except while the receiving thread, which has timed it out, is
  between its stores of NULL and FREE;
* a pointer that is about to be cleared by a release is the one of a FREE context, not the pointer
  that a new allocation has stored;
* a REFERENCED context is held, its buffer counts the holders and is not on the free list, or all
  have dropped their references and the last of them is about to mark it FREE. -/
theorem ownership_survives (registered : Bool) (numBuffers : ℕ) (rxTimeoutMs : UInt32)
    (api : Option (ε → Option κ → Bool)) (ext : ε) (xs : List (InterleavingAction ε κ))
    (s : Interleaving ε κ)
    (hrun : Steps (Interleaving.step registered) Undisturbed
      (.init numBuffers rxTimeoutMs api ext) xs s) :
    (∀ i c, s.memory.contexts[i]? = some c → c.state = .receiving → s.expiringAt ≠ some i →
      c.buffer ≠ none) ∧
    (∀ t i c, s.clearingAt t = some i → s.memory.contexts[i]? = some c →
      c.state = .free ∧ (s.fillingAt = some i → c.buffer = none)) ∧
    (∀ i c, s.memory.contexts[i]? = some c → c.state = .referenced →
      (∃ id, c.buffer = some id ∧ s.memory.ref id = s.holders i ∧ 0 < s.holders i ∧
        id ∉ s.memory.freeBufs) ∨ s.holders i = 0 ∧ ∃ t, s.freeingAt t = some i) := by
  have hconsistent : s.Consistent :=
    hrun.invariant (fun _ _ _ h hC hstep => h.step hC hstep) (.init numBuffers rxTimeoutMs api ext)
  refine ⟨fun i c hc hstate hexpiring => ?_, fun t i c ht hc => ?_, fun i c hc hstate => ?_⟩
  · exact hconsistent.buffer_ne_none hc hstate hexpiring
  · exact hconsistent.clearing ht hc
  · exact hconsistent.referenced hc hstate

/-! ### Schedules -/

instance (s : Interleaving ε κ) : (x : InterleavingAction ε κ) → Decidable (Undisturbed s x)
  | .frame _ => isTrue trivial
  | .dequeue => isTrue trivial
  | .step t _ => inferInstanceAs (Decidable ((∀ i ∈ s.droppingAt t, s.droppingAt t.other ≠ some i) ∧
      (t = .receiver → ∀ i ∈ s.storingAt, s.clearingAt .router ≠ some i)))

/-- The two threads on the receive pool of the BLE service. -/
def bleInterleaving : Interleaving Unit Unit :=
  .init alfieBleServiceNumRxBuffers (UInt32.ofNat alfieBleServiceRxTimeoutMs) none ()

/-- A message of one fragment, long enough for the router. -/
def oneFragment : RxFrame Unit Unit := ⟨⟨7, 10, 0, 1, List.replicate 10 1⟩, none, id⟩

/-- The first of two fragments, of another message. -/
def firstOfTwo : RxFrame Unit Unit := ⟨⟨8, 20, 0, 2, List.replicate 10 1⟩, none, id⟩

/-- `n` steps of a thread, none of the other in between. -/
def steps (t : ThreadId) (now : UInt32) (n : ℕ) : List (InterleavingAction Unit Unit) :=
  List.replicate n (.step t now)

/-- The threads take turns at the release of a message, and the next one reuses its context. -/
def takenTurns : List (InterleavingAction Unit Unit) :=
  .frame oneFragment :: steps .receiver 0 34 ++ .dequeue :: steps .router 0 3 ++
    steps .receiver 0 1 ++ steps .router 0 1 ++ steps .receiver 0 4 ++
    .frame firstOfTwo :: steps .receiver 0 20

/-- The two threads take turns at the same context without a disturbance, and it is in use again. -/
theorem ownership_survives_takenTurns :
    ∃ s : Interleaving Unit Unit,
      Steps (Interleaving.step true) Undisturbed bleInterleaving takenTurns s ∧
      (∃ c, s.memory.contexts[0]? = some c ∧ c.state = .receiving ∧ c.buffer ≠ none) ∧
      (∀ i c, s.memory.contexts[i]? = some c → c.state = .referenced →
        (∃ id, c.buffer = some id ∧ s.memory.ref id = s.holders i ∧ 0 < s.holders i ∧
          id ∉ s.memory.freeBufs) ∨ s.holders i = 0 ∧ ∃ t, s.freeingAt t = some i) := by
  obtain ⟨s, hs, ⟨c, hc, hstate⟩, hexpiring⟩ :
      ∃ s ∈ checkRun (Interleaving.step true) Undisturbed bleInterleaving takenTurns,
        (∃ c ∈ s.memory.contexts[0]?, c.state = .receiving) ∧ s.expiringAt ≠ some 0 := by
    decide +kernel
  obtain ⟨hreceiving, -, hreferenced⟩ :=
    ownership_survives true alfieBleServiceNumRxBuffers (UInt32.ofNat alfieBleServiceRxTimeoutMs)
      none () takenTurns s (steps_of_checkRun hs)
  exact ⟨s, steps_of_checkRun hs, ⟨c, hc, hstate, hreceiving 0 c hc hstate hexpiring⟩,
    hreferenced⟩

/-- The receiving thread hands a message to the router and runs up to its `net_buf_unref`, with the
count loaded. The router forwards and releases the message. -/
def droppedTogether : List (InterleavingAction Unit Unit) :=
  .frame oneFragment :: steps .receiver 0 36 ++ .dequeue :: steps .router 0 4 ++
    steps .receiver 0 1

/-- The router releases a message, and is preempted before its last store by the next one. -/
def storedBetween : List (InterleavingAction Unit Unit) :=
  .frame oneFragment :: steps .receiver 0 37 ++ .dequeue :: steps .router 0 5 ++
    .frame firstOfTwo :: steps .receiver 0 20 ++ steps .router 0 1

/-- The first of two fragments, and another one after the timeout. -/
def expired : List (InterleavingAction Unit Unit) :=
  .frame firstOfTwo :: steps .receiver 0 27 ++ .frame firstOfTwo :: steps .receiver 10000 4

/-- **Ownership does not survive every interleaving.** After the first schedule both threads are
idle and the FIFO is empty, but the context is REFERENCED for good and its buffer is back on the
free list. After the second one, and for a moment in the third one, which is undisturbed, the
context is RECEIVING with a NULL buffer. -/
theorem ownership_lost :
    (∃ s : Interleaving Unit Unit,
      Steps (Interleaving.step true) (fun _ _ => True) bleInterleaving droppedTogether s ∧
      s.receiver.isNone ∧ s.router.isNone ∧ s.fifo = [] ∧ s.holders 0 = 0 ∧
      ∃ c, s.memory.contexts[0]? = some c ∧ c.state = .referenced ∧
        ∃ id, c.buffer = some id ∧ id ∈ s.memory.freeBufs) ∧
    (∃ s : Interleaving Unit Unit,
      Steps (Interleaving.step true) (fun _ _ => True) bleInterleaving storedBetween s ∧
      ∃ c, s.memory.contexts[0]? = some c ∧ c.state = .receiving ∧ c.buffer = none ∧
        s.expiringAt = none) ∧
    (∃ s : Interleaving Unit Unit,
      Steps (Interleaving.step true) Undisturbed bleInterleaving expired s ∧
      ∃ c, s.memory.contexts[0]? = some c ∧ c.state = .receiving ∧ c.buffer = none ∧
        s.expiringAt = some 0) := by
  -- one schedule for each of the three
  refine ⟨?_, ?_, ?_⟩
  · obtain ⟨s, hs, h⟩ : ∃ s ∈ checkRun (Interleaving.step true) (fun _ _ => True)
        bleInterleaving droppedTogether,
        s.receiver.isNone ∧ s.router.isNone ∧ s.fifo = [] ∧ s.holders 0 = 0 ∧
        ∃ c ∈ s.memory.contexts[0]?, c.state = .referenced ∧
          ∃ id ∈ c.buffer, id ∈ s.memory.freeBufs := by decide +kernel
    exact ⟨s, steps_of_checkRun hs, h⟩
  · obtain ⟨s, hs, h⟩ : ∃ s ∈ checkRun (Interleaving.step true) (fun _ _ => True)
        bleInterleaving storedBetween,
        ∃ c ∈ s.memory.contexts[0]?, c.state = .receiving ∧ c.buffer = none ∧
          s.expiringAt = none := by decide +kernel
    exact ⟨s, steps_of_checkRun hs, h⟩
  · obtain ⟨s, hs, h⟩ : ∃ s ∈ checkRun (Interleaving.step true) Undisturbed
        bleInterleaving expired,
        ∃ c ∈ s.memory.contexts[0]?, c.state = .receiving ∧ c.buffer = none ∧
          s.expiringAt = some 0 := by decide +kernel
    exact ⟨s, steps_of_checkRun hs, h⟩

end DectCommunicator

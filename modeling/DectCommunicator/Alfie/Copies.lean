import Mathlib.Algebra.BigOperators.Ring.Finset
import Mathlib.Algebra.Order.BigOperators.Group.Finset
import Mathlib.Data.List.Count
import DectCommunicator.Alfie.EndToEnd
import DectCommunicator.Ble.Repetition
import DectCommunicator.Dect.AtMostOnce

/-!
# How often a message is shown

A message takes three hops, each of which repeats what is not acknowledged: from a client to its
device over BLE, over the air, and over BLE to the client of the destination. On each of them the
receiver can mistake a copy for a new message, and between them the routers could forward one twice.
Here the bounds of the hops (`Ble/Repetition.lean`, `Dect/AtMostOnce.lean`) and the accounts of the
routers are put together for the whole of `Alfie/System.lean`: a client delivers a message of more
than 243 bytes at most as often as it has been sent, and a shorter one at most 16 times as often
(`system_shows_le`).

An `Audit` is the system with the numbers that the calls over BLE have drawn. `AuditInv` compares,
for each device, what the client has sent with what its service has handed up, this with what the
router has written, and so on up to what the other client delivers.
-/

namespace DectCommunicator

open Machine

/-! ### Counting -/

/-- Where each of the elements with an image is counted at most `k` times as often, the image is.
The elements that share it are counted one by one, so different calls with the same bytes add up. -/
theorem count_map_le {α β : Type} [BEq α] [LawfulBEq α] [BEq β] [LawfulBEq β] {f : α → β}
    {l l' : List α} {k : ℕ} {b : β} (h : ∀ a, f a = b → l.count a ≤ k * l'.count a) :
    (l.map f).count b ≤ k * (l'.map f).count b := by
  classical
  obtain rfl : ‹BEq α› = instBEqOfDecidableEq := lawful_beq_subsingleton _ _
  -- the occurrences of the image are those of the elements that have it
  have hle : (↑(l.filter fun a => f a == b) : Multiset α) ≤
      k • ↑(l'.filter fun a => f a == b) := by
    rw [Multiset.le_iff_count]
    intro a
    rw [Multiset.count_nsmul, Multiset.coe_count, Multiset.coe_count]
    -- an element with another image does not occur in the filtered list at all
    by_cases ha : f a = b
    · rw [List.count_filter (by simpa using ha), List.count_filter (by simpa using ha)]
      exact h a ha
    · rw [List.count_eq_zero_of_not_mem fun hmem => ha (by simpa using (List.mem_filter.mp hmem).2)]
      exact Nat.zero_le _
  have hcard := Multiset.card_le_card hle
  -- counting an image is counting the elements that are mapped to it
  have hcount : ∀ l : List α, (l.map f).count b = (l.filter fun a => f a == b).length := by
    intro l
    rw [List.count, List.countP_map, List.countP_eq_length_filter]
    rfl
  rw [Multiset.card_nsmul, Multiset.coe_card, Multiset.coe_card] at hcard
  rwa [hcount, hcount]

/-- A count is the sum of the counts over the keys. -/
theorem countP_eq_sum {α κ : Type} [DecidableEq κ] (p : α → Bool) (key : α → κ) (S : Finset κ)
    {l : List α} (h : ∀ a ∈ l, key a ∈ S) :
    l.countP p = ∑ k ∈ S, l.countP fun a => p a && key a = k := by
  induction l with
  | nil => simp
  | cons a l ih =>
    obtain ⟨ha, hl⟩ := List.forall_mem_cons.mp h
    simp only [List.countP_cons, Finset.sum_add_distrib]
    rw [← ih hl]
    congr 1
    -- `a` is counted under its own key
    rw [Finset.sum_eq_single_of_mem (key a) ha]
    · simp
    · intro k _ hk
      simp [hk.symm]

/-! ### What a router writes -/

/-- The messages that the thread has written to a transport. -/
def Router.written (r : Router) (t : AlfieTransport) : List (List UInt8) :=
  (r.log.filterMap (RouterEffect.writeTo t)).map Prod.snd

/-- The messages that the transports of a type have handed up. -/
def Router.arrivedFrom (r : Router) (d : AlfieTransportType) : List (List UInt8) :=
  (r.arrived.filter fun x => x.direction = d).map fun x => x.content.data

section Written

variable {r r' : Router} {t : AlfieTransport}

/-- The handling of a message writes it once to the transport of the other type. This is where the
registration matters: with two transports of one type there would be two writes. -/
theorem handling_writes (endpoints : List AlfieEndpoint) (x : Arrival)
    (ht : t = dectTransport ∨ t = bleTransport) :
    ((handling [dectTransport, bleTransport] endpoints x).filterMap
        (RouterEffect.writeTo t)).map Prod.snd =
      if x.direction = t.type.opposite then [x.content.data] else [] := by
  -- an endpoint that is notified writes nothing
  have hendpoint : ∀ o : Option AlfieEndpoint,
      ((o.toList.map fun e => RouterEffect.onFrameRx e x.buffer).filterMap
        (RouterEffect.writeTo t)) = [] := by
    intro o
    cases o <;> rfl
  -- nor do the two statements around the writes
  have hget : ∀ l, List.filterMap (RouterEffect.writeTo t) (.fifoGet x.direction x.buffer :: l) =
      List.filterMap (RouterEffect.writeTo t) l := fun l => rfl
  have hunref : List.filterMap (RouterEffect.writeTo t) [.unref x.buffer] = [] := rfl
  unfold handling
  rw [List.filterMap_append, List.filterMap_append, hget, hendpoint, hunref, List.append_nil,
    List.append_nil]
  obtain rfl | rfl := ht <;> cases hx : x.direction <;> rfl

/-- **A router writes a message at most as often as it has been handed up.** -/
theorem Accounts.written_le {handled : List Arrival} (h : Accounts r handled)
    (htransports : r.transports = [dectTransport, bleTransport])
    (ht : t = dectTransport ∨ t = bleTransport) (m : List UInt8) :
    (r.written t).count m ≤ (r.arrivedFrom t.type.opposite).count m := by
  -- what the handling of all of them writes
  have hhandled : ∀ xs : List Arrival,
      ((xs.flatMap (handling r.transports r.endpoints)).filterMap
          (RouterEffect.writeTo t)).map Prod.snd =
        (xs.filter fun x => x.direction = t.type.opposite).map fun x => x.content.data := by
    intro xs
    induction xs with
    | nil => rfl
    | cons x xs ih =>
      rw [List.flatMap_cons, List.filterMap_append, List.map_append, ih, htransports,
        handling_writes r.endpoints x ht]
      -- a message of the one direction is written to `t`, one of the other direction is not
      by_cases hx : x.direction = t.type.opposite
      · rw [if_pos hx, List.filter_cons_of_pos (by simpa using hx), List.map_cons]
        rfl
      · rw [if_neg hx, List.filter_cons_of_neg (by simpa using hx)]
        rfl
  have harrived := h.arrived t.type.opposite
  calc (r.written t).count m
      ≤ (((r.log ++ r.pending).filterMap (RouterEffect.writeTo t)).map Prod.snd).count m := by
        rw [List.filterMap_append, List.map_append]
        exact (List.sublist_append_left _ _).count_le m
    _ = ((handled.filter fun x => x.direction = t.type.opposite).map
          fun x => x.content.data).count m := by rw [h.log, hhandled]
    _ ≤ ((r.arrived.filter fun x => x.direction = t.type.opposite ∧ x.Accepted).map
          fun x => x.content.data).count m := by
        rw [harrived, List.map_append]
        exact (List.sublist_append_left _ _).count_le m
    _ ≤ (r.arrivedFrom t.type.opposite).count m := by
        refine List.Sublist.count_le m ?_
        refine (List.monotone_filter_right _ fun x hx => ?_).map _
        simp only [decide_eq_true_eq] at hx ⊢
        exact hx.1

/-- The thread writes more and more, and hands nothing up. -/
theorem Router.Step.thread {x : RouterAction} (h : r.Step x r') (hx : x.Thread) :
    r'.arrived = r.arrived ∧ r.log <+: r'.log := by
  cases h with
  | fill => exact absurd hx not_false
  | rx => exact absurd hx not_false
  | poll => exact ⟨rfl, List.prefix_rfl⟩
  | run hrun =>
    cases hrun with
    | stmt => exact ⟨rfl, List.prefix_append _ _⟩
    | get =>
      rw [dequeue_arrived, dequeue_log]
      exact ⟨rfl, List.prefix_append _ _⟩
    | _ => exact ⟨rfl, List.prefix_rfl⟩

/-- A message is handed up: it counts as arrived from the transport that handed it up, and the
thread has not come to it yet. -/
theorem Router.accept_arrivedFrom {a : ℕ} {m : List UInt8} (h : r.accept t a m = some r')
    (d : AlfieTransportType) :
    r'.arrivedFrom d = (r.arrivedFrom d ++ if t.type = d then [m] else []) ∧ r'.log = r.log := by
  unfold Router.accept at h
  split at h
  · -- the buffer is filled before the callback runs, and filling touches neither of the two
    obtain ⟨r₁, hfill, hrx⟩ := Option.bind_eq_some_iff.mp h
    cases Router.step_spec hfill with
    | fill =>
      cases Router.step_spec hrx with
      | rx =>
        obtain ⟨up, down, heq⟩ := prvHandleTransportRx_frame t a
          { r with memory := Function.update r.memory a _ }
        constructor
        · unfold Router.arrivedFrom
          dsimp only
          rw [List.filter_append, List.map_append, Function.update_self]
          congr 1
          -- it is counted under the type of its transport and under no other
          by_cases hd : t.type = d
          · rw [if_pos hd, List.filter_cons_of_pos (by simpa using hd)]
            rfl
          · rw [if_neg hd, List.filter_cons_of_neg (by simpa using hd)]
            rfl
        · dsimp only
          rw [heq]
  · cases h

/-- Messages are handed up one after the other: all of them count as arrived, in their order. -/
theorem Router.acceptAll_arrivedFrom {buffers : List ℕ} {ms : List (List UInt8)}
    (h : r.acceptAll t buffers ms = some r') (d : AlfieTransportType) :
    r'.arrivedFrom d = (r.arrivedFrom d ++ if t.type = d then ms else []) ∧ r'.log = r.log := by
  induction ms generalizing r buffers with
  | nil =>
    cases buffers with
    | nil =>
      obtain rfl := Option.some.inj h
      rw [ite_self, List.append_nil]
      exact ⟨rfl, rfl⟩
    | cons a buffers => cases h
  | cons m ms ih =>
    -- one message per buffer; the others by the induction hypothesis from the state behind it
    cases buffers with
    | nil => cases h
    | cons a buffers =>
      obtain ⟨r₁, hr₁, hrest⟩ := Option.bind_eq_some_iff.mp h
      obtain ⟨harrived, hlog⟩ := Router.accept_arrivedFrom hr₁ d
      obtain ⟨harrived', hlog'⟩ := ih hrest
      refine ⟨?_, hlog'.trans hlog⟩
      rw [harrived', harrived, List.append_assoc]
      congr 1
      split <;> rfl

/-- Handing up does not change what is registered, so the two transports stay the only ones. -/
theorem Router.acceptAll_transports {buffers : List ℕ} {ms : List (List UInt8)}
    (h : r.acceptAll t buffers ms = some r') : r'.transports = r.transports := by
  induction ms generalizing r buffers with
  | nil =>
    cases buffers with
    | nil => rw [Option.some.inj h]
    | cons a buffers => cases h
  | cons m ms ih =>
    cases buffers with
    | nil => cases h
    | cons a buffers =>
      obtain ⟨r₁, hr₁, hrest⟩ := Option.bind_eq_some_iff.mp h
      rw [ih hrest]
      unfold Router.accept at hr₁
      split at hr₁
      · -- neither of the two steps of a transport registers anything
        obtain ⟨r₂, hfill, hrx⟩ := Option.bind_eq_some_iff.mp hr₁
        exact (Router.step_spec hrx).config.1.trans (Router.step_spec hfill).config.1
      · cases hr₁

end Written

/-- What a router has been handed up from the service and from the radio, and what of it has become
calls of the other. -/
structure RouterCounts (r : Router) (fromBle fromAir toAir toBle : List (List UInt8)) : Prop where
  routes : Routes (fun _ _ => True) r
  transports : r.transports = [dectTransport, bleTransport]
  fromBle : r.arrivedFrom .upstream = fromBle
  fromAir : r.arrivedFrom .downstream = fromAir
  toAir : ∀ m, toAir.count m ≤ (r.written dectTransport).count m
  toBle : ∀ m, toBle.count m ≤ (r.written bleTransport).count m

section Counts

variable {r r' : Router} {fromBle fromAir toAir toBle : List (List UInt8)}

/-- Before the first message every count is zero, and the two transports of the firmware are
registered. -/
theorem RouterCounts.init (endpoints : List AlfieEndpoint) (memory : ℕ → CompletedBuffer) :
    RouterCounts (.init [dectTransport, bleTransport] endpoints memory) [] [] [] [] where
  routes := .init
  transports := rfl
  fromBle := rfl
  fromAir := rfl
  toAir _ := le_rfl
  toBle _ := le_rfl

/-- **The calls of a router are among what has been handed up.** -/
theorem RouterCounts.le (h : RouterCounts r fromBle fromAir toAir toBle) (m : List UInt8) :
    toAir.count m ≤ fromBle.count m ∧ toBle.count m ≤ fromAir.count m := by
  obtain ⟨handled, haccounts⟩ := h.routes.accounts
  have hdect := haccounts.written_le h.transports (.inl rfl) m
  have hble := haccounts.written_le h.transports (.inr rfl) m
  refine ⟨(h.toAir m).trans ?_, (h.toBle m).trans ?_⟩
  · rw [← h.fromBle]
    exact hdect
  · rw [← h.fromAir]
    exact hble

/-- The log of the thread only grows, so what was once written is never counted less. -/
theorem written_mono (h : r.log <+: r'.log) (t : AlfieTransport) (m : List UInt8) :
    (r.written t).count m ≤ (r'.written t).count m :=
  ((h.sublist.filterMap _).map _).count_le m

/-- The thread goes on by a step that is no write: it may take more messages from the FIFOs, but the
bounds compare what is written with what has arrived, and both stay. -/
theorem RouterCounts.thread (h : RouterCounts r fromBle fromAir toAir toBle) {x : RouterAction}
    (hx : x.Thread) (hstep : r.step x = some r') :
    RouterCounts r' fromBle fromAir toAir toBle := by
  have hspec := Router.step_spec hstep
  obtain ⟨harrived, hlog⟩ := hspec.thread hx
  have hfrom : ∀ d, r'.arrivedFrom d = r.arrivedFrom d := by
    intro d
    unfold Router.arrivedFrom
    rw [harrived]
  exact
    { routes := h.routes.thread hx hstep
      transports := hspec.config.1.trans h.transports
      fromBle := (hfrom _).trans h.fromBle
      fromAir := (hfrom _).trans h.fromAir
      toAir := fun m => (h.toAir m).trans (written_mono hlog _ m)
      toBle := fun m => (h.toBle m).trans (written_mono hlog _ m) }

/-- A transport hands up messages: the bound of its direction grows with them, the other one
stays. -/
theorem RouterCounts.acceptAll (h : RouterCounts r fromBle fromAir toAir toBle)
    {t : AlfieTransport} {buffers : List ℕ} {ms : List (List UInt8)}
    (hr : r.acceptAll t buffers ms = some r') :
    RouterCounts r' (fromBle ++ if t.type = .upstream then ms else [])
      (fromAir ++ if t.type = .downstream then ms else []) toAir toBle := by
  obtain ⟨hup, hlog⟩ := Router.acceptAll_arrivedFrom hr .upstream
  obtain ⟨hdown, -⟩ := Router.acceptAll_arrivedFrom hr .downstream
  -- nothing is written while messages are handed up, so both counts of writes stay
  have hwritten : ∀ t, r'.written t = r.written t := by
    intro t
    unfold Router.written
    rw [hlog]
  exact
    { routes := h.routes.acceptAll (fun _ _ => trivial) hr
      transports := (Router.acceptAll_transports hr).trans h.transports
      fromBle := by rw [hup, h.fromBle]
      fromAir := by rw [hdown, h.fromAir]
      toAir := fun m => by
        rw [hwritten]
        exact h.toAir m
      toBle := fun m => by
        rw [hwritten]
        exact h.toBle m }

/-- The thread writes to registered transports, which are the two of the firmware. -/
theorem RouterCounts.registered (h : RouterCounts r fromBle fromAir toAir toBle)
    {t : AlfieTransport} {a : ℕ} {rest : List RouterStmt} (htodo : r.todo = .write t a :: rest) :
    t = dectTransport ∨ t = bleTransport := by
  obtain ⟨handled, haccounts⟩ := h.routes.accounts
  have hmem : RouterEffect.write t (AlfieProtoHeader.ofBytes (r.memory a).data).dstId
      (r.memory a).data (r.memory a).totalSizeBytes.toNat ∈
        handled.flatMap (handling r.transports r.endpoints) := by
    rw [← haccounts.log, Router.pending, htodo]
    exact List.mem_append_right _ (List.mem_append_left _ List.mem_cons_self)
  obtain ⟨x, -, hmem⟩ := List.mem_flatMap.mp hmem
  -- of the handling of a message only the writes are writes
  simp only [handling, List.cons_append, List.append_assoc, List.mem_cons, reduceCtorEq,
    List.mem_append, List.mem_map, RouterEffect.write.injEq, List.not_mem_nil, or_false, false_or,
    and_false, exists_false] at hmem
  obtain ⟨t', ht', rfl, -⟩ := hmem
  have htransports := (List.mem_filter.mp ht').1
  rw [h.transports] at htransports
  exact List.mem_pair.mp htransports

/-- **The thread writes a message.** It is written to a transport, and becomes a call of it unless
the transport refuses it. -/
theorem RouterCounts.write (h : RouterCounts r fromBle fromAir toAir toBle) {t : AlfieTransport}
    {a : ℕ} {rest : List RouterStmt} (htodo : r.todo = .write t a :: rest)
    (hstep : r.step .run = some r') :
    t = dectTransport ∧ RouterCounts r' fromBle fromAir ((r.memory a).data :: toAir) toBle ∨
      t = bleTransport ∧
        RouterCounts r' fromBle fromAir toAir (toBle ++ [(r.memory a).data]) := by
  have hthread := h.thread (x := .run) trivial hstep
  -- the log grows by the one write
  have hlog : ∀ t', r'.written t' =
      r.written t' ++ if t = t' then [(r.memory a).data] else [] := by
    intro t'
    have hr : r.run = some r' := hstep
    unfold Router.run at hr
    rw [htodo] at hr
    obtain rfl := Option.some.inj hr
    unfold Router.written
    rw [List.filterMap_append, List.map_append]
    congr 1
    show ((RouterEffect.writeTo t' (.write t _ _ _)).toList).map Prod.snd = _
    unfold RouterEffect.writeTo
    dsimp only
    split <;> rfl
  rcases h.registered htodo with rfl | rfl
  · -- a write to DECT becomes a call on the air, the one to the BLE service a call of the
    -- connection
    refine .inl ⟨rfl, { hthread with toAir := fun m => ?_ }⟩
    rw [hlog, if_pos rfl, List.count_append, List.count_cons, List.count_singleton]
    exact Nat.add_le_add_right (h.toAir m) _
  · refine .inr ⟨rfl, { hthread with toBle := fun m => ?_ }⟩
    rw [hlog, if_pos rfl, List.count_append, List.count_append]
    exact Nat.add_le_add_right (h.toBle m) _

end Counts

/-! ### The audited system -/

/-- The system with the tallies of its connections, which record the calls of both sides. The system
itself forgets a call when it returns, and the bound is about all that were ever made. -/
structure Audit where
  system : System
  tally : UInt32 → Tally

/-- The devices after start-up: nothing recorded, and the router registered with both transports. -/
def Audit.init (endpoints : List AlfieEndpoint) (memory : ℕ → CompletedBuffer) : Audit :=
  ⟨.init endpoints memory, fun _ => .init routerReferences⟩

/-- The tallies after a step that leads to `s'`. A write of the router to the BLE service is a step
of the connection too, so it is recorded there like one. -/
def Audit.recorded (s : Audit) (s' : System) : SystemAction → UInt32 → Tally
  | .link d a _ => Function.update s.tally d ((s.tally d).record (s'.link d) a)
  | .write d seqId =>
    match (s.system.router d).todo with
    | .write t a :: _ =>
      match t.type with
      | .upstream =>
        Function.update s.tally d ((s.tally d).record (s'.link d)
          (.act (.serviceSend seqId ((s.system.router d).memory a).data)))
      | .downstream => s.tally
    | _ => s.tally
  | _ => s.tally

/-- A step of the system is recorded; whether it is possible is for the system alone to say. -/
def Audit.step (s : Audit) (x : SystemAction) : Option Audit :=
  (s.system.step x).map fun s' => ⟨s', s.recorded s' x⟩

/-- The call of a `write` draws a number that its transport has not drawn before. -/
def Audit.WriteFresh (s : Audit) (d : UInt32) (seqId : UInt16) : List RouterStmt → Prop
  | .write t a :: _ =>
    let data := ((s.system.router d).memory a).data
    match t.type with
    | .downstream =>
      FreshSeq s.system.air (.startWrite d (AlfieProtoHeader.ofBytes data).dstId seqId data)
    | .upstream => DrawsFresh (s.tally d) (.act (.serviceSend seqId data))
  | _ => True

/-- **The condition.** Every call draws a number that has not been drawn before, and no radio
handles fragment 0 of a message it has handed up. -/
def Audit.Fresh (s : Audit) : SystemAction → Prop
  | .link d a _ => DrawsFresh (s.tally d) a
  | .receive d k now beyond _ => NoLateFirstFragment s.system.air (.receive d k now beyond)
  | .write d seqId => s.WriteFresh d seqId (s.system.router d).todo
  | _ => True

/-- A run of the audited system is one of the system. -/
theorem Audit.run_system {s t : Audit} {as : List SystemAction}
    (h : Steps Audit.step Audit.Fresh s as t) :
    Steps System.step (fun _ _ => True) s.system as t.system := by
  induction h with
  | nil s => exact .nil s.system
  | cons _ hstep _ ih =>
    obtain ⟨s', hs', rfl⟩ := Option.map_eq_some_iff.mp hstep
    exact .cons trivial hs' ih

/-! ### What a step records -/

section Record

variable {t : Tally} {net : BleNet} {a : LinkAction}

/-- The tally follows the connection that it is told of, whatever the action was. -/
@[simp] theorem record_net (t : Tally) (net : BleNet) (a : LinkAction) :
    (t.record net a).net = net := by
  unfold Tally.record
  split
  · rfl
  · split <;> rfl
  · rfl
  · rfl
  · rfl

/-- What has been handed up stays so: a record only appends to it. -/
theorem handedUp_record (t : Tally) (net : BleNet) (a : LinkAction) :
    t.handedUp <+: (t.record net a).handedUp := by
  unfold Tally.record
  split
  · exact List.prefix_rfl
  · split <;> exact List.prefix_rfl
  · exact List.prefix_rfl
  · exact List.prefix_append _ _
  · exact List.prefix_rfl

/-- Only the router makes calls of the service, so any other action of the connection leaves them
alone. -/
theorem serviceCalls_record (ha : ¬ a.ByRouter) :
    (t.record net a).serviceCalls = t.serviceCalls := by
  unfold Tally.record
  split
  · rfl
  · exact absurd trivial ha
  · rfl
  · rfl
  · rfl

end Record

/-! ### Steps of the air -/

section Air

variable {n n' : Net} {a : Action}

/-- No device has a context open in the beginning, and so no message that it could complete
twice. -/
theorem AllOnce.init (callback : UInt32 → Option (TransportRxCallback DectTransportExt)) :
    AllOnce (.init callback) := by
  intro d
  refine ⟨fun i srcId seqId hopen => ?_, List.nodup_nil⟩
  obtain ⟨b, hi, hb, -⟩ := hopen
  rw [List.eq_of_mem_replicate (List.mem_of_getElem? hi)] at hb
  cases hb

/-- A frame is received by one device, and starts no call. -/
theorem NetInv.receive_frame (h : NetInv n) {d : UInt32} {k : ℕ} {now : UInt32}
    {beyond : ℕ → UInt8} (hstep : n.step (.receive d k now beyond) = some n') :
    (∀ d', (n'.device d').calls = (n.device d').calls) ∧
      ∀ d', d' ≠ d → (n'.device d').delivered = (n.device d').delivered := by
  cases Net.step_cases hstep with
  | @receive _ _ _ _ frame hk =>
    have hspec := h.received d now beyond (List.mem_of_getElem? hk)
    constructor
    · exact update_device_rel (r := fun x y => y.calls = x.calls) n _ _ _ (fun _ => rfl)
        hspec.writer.2.1
    · intro d' hd
      rw [update_device_of_ne _ _ _ _ hd]

/-- Other steps neither start a call nor deliver a message. -/
theorem Net.step_frame (ha : ¬ a.Apart) (hstep : n.step a = some n') (d : UInt32) :
    (n'.device d).calls = (n.device d).calls ∧
      (n'.device d).delivered = (n.device d).delivered := by
  -- a device that does neither
  have hupdate : ∀ {d' : UInt32} {dev : Device} {out : List (List UInt8)},
      dev.calls = (n.device d').calls ∧ dev.delivered = (n.device d').delivered →
        ((n.update d' dev out).device d).calls = (n.device d).calls ∧
          ((n.update d' dev out).device d).delivered = (n.device d).delivered :=
    fun hdev => update_device_rel (r := fun x y => y.calls = x.calls ∧ y.delivered = x.delivered)
      n _ _ _ (fun _ => ⟨rfl, rfl⟩) hdev d
  cases Net.step_cases hstep with
  | startWrite => exact absurd trivial ha
  | receive => exact absurd trivial ha
  | @writer d' call p =>
    obtain ⟨hcalls, hdelivered, -⟩ := writerStep_history d' call (n.device d') p
    exact hupdate ⟨hcalls, hdelivered⟩
  | lose => exact ⟨rfl, rfl⟩
  | release => exact hupdate ⟨rfl, rfl⟩

/-- A call is started by one device, at most once: the others keep their calls, and the new one is
at the end of its list unless the layer refused it. -/
theorem Net.step_startWrite {d dstId : UInt32} {seqId : UInt16} {data : List UInt8}
    (hstep : n.step (.startWrite d dstId seqId data) = some n') :
    (∀ d', (n'.device d').delivered = (n.device d').delivered) ∧
      (∀ d', d' ≠ d → (n'.device d').calls = (n.device d').calls) ∧
      ((n'.device d).calls.map Call.data).Sublist (data :: (n.device d).calls.map Call.data) := by
  cases Net.step_cases hstep with
  | startWrite =>
    refine ⟨fun d' => ?_, fun d' hd => ?_, ?_⟩
    · -- the device that calls, and the others, which the step does not touch
      by_cases hd : d' = d
      · rw [hd, update_device_self]
        rfl
      · rw [update_device_of_ne _ _ _ _ hd]
    · rw [update_device_of_ne _ _ _ _ hd]
    · rw [update_device_self]
      unfold Device.startWrite
      dsimp only
      split
      · -- a call that is refused is not recorded
        exact List.Sublist.refl _
      · exact List.sublist_cons_self _ _

end Air

/-! ### The invariant -/

/-- **The invariant.** The air's own, with what was delivered being written and at most once, and
for every connection its tally, which follows it. -/
structure AuditInv (s : Audit) : Prop where
  air : NetInv s.system.air
  delivered : DeliveredIsWritten s.system.air
  once : AllOnce s.system.air
  net : ∀ d, (s.tally d).net = s.system.link d
  tally : ∀ d, TallyInv routerReferences (s.tally d)
  router : ∀ d, RouterCounts (s.system.router d) (s.system.link d).handedUp
    ((s.system.air.device d).delivered.map Delivery.data)
    ((s.system.air.device d).calls.map Call.data)
    ((s.tally d).serviceCalls.map DrawnCall.data)

section Steps

variable {s s' : Audit}

/-- In the beginning nothing has been called, delivered or recorded. -/
theorem AuditInv.init (endpoints : List AlfieEndpoint) (memory : ℕ → CompletedBuffer) :
    AuditInv (.init endpoints memory) where
  air := .init _
  delivered _ _ hm := absurd hm List.not_mem_nil
  once := .init _
  net _ := rfl
  tally _ := .init
  router _ := .init endpoints memory

/-- A step of a connection is one of its tally. -/
theorem AuditInv.tallyStep (h : AuditInv s) {d : UInt32} {a : LinkAction} {l : BleNet}
    (hfresh : DrawsFresh (s.tally d) a) (hl : (s.system.link d).linkStep a = some l) :
    TallyInv routerReferences ((s.tally d).record l a) := by
  have hstep : (s.tally d).step a = some ((s.tally d).record l a) := by
    unfold Tally.step
    rw [h.net d, hl]
    rfl
  exact (h.tally d).step hfresh hstep

/-- The connection of a device and its router go on. The other devices have what they had. -/
theorem AuditInv.setLink (h : AuditInv s) {d : UInt32} {l : BleNet} {r : Router} {t : Tally}
    (hnet : t.net = l) (htally : TallyInv routerReferences t)
    (hcounts : RouterCounts r l.handedUp ((s.system.air.device d).delivered.map Delivery.data)
      ((s.system.air.device d).calls.map Call.data) (t.serviceCalls.map DrawnCall.data)) :
    AuditInv ⟨{ s.system with
      link := Function.update s.system.link d l
      router := Function.update s.system.router d r }, Function.update s.tally d t⟩ := by
  refine ⟨h.air, h.delivered, h.once, fun d' => ?_, fun d' => ?_, fun d' => ?_⟩
  · dsimp only
    -- the one device by what is assumed of it, and the others as they were
    by_cases hd : d' = d
    · rw [hd, Function.update_self, Function.update_self, hnet]
    · rw [Function.update_of_ne hd, Function.update_of_ne hd, h.net]
  · dsimp only
    by_cases hd : d' = d
    · rw [hd, Function.update_self]
      exact htally
    · rw [Function.update_of_ne hd]
      exact h.tally d'
  · dsimp only
    by_cases hd : d' = d
    · rw [hd, Function.update_self, Function.update_self, Function.update_self]
      exact hcounts
    · rw [Function.update_of_ne hd, Function.update_of_ne hd, Function.update_of_ne hd]
      exact h.router d'

/-- The radio of a device and its router go on. The other devices have what they had. -/
theorem AuditInv.setRadio (h : AuditInv s) {d : UInt32} {air : Net} {r : Router}
    (hair : NetInv air) (hdelivered : DeliveredIsWritten air) (honce : AllOnce air)
    (hothers : ∀ d', d' ≠ d → (air.device d').delivered = (s.system.air.device d').delivered ∧
      (air.device d').calls = (s.system.air.device d').calls)
    (hcounts : RouterCounts r (s.system.link d).handedUp
      ((air.device d).delivered.map Delivery.data) ((air.device d).calls.map Call.data)
      ((s.tally d).serviceCalls.map DrawnCall.data)) :
    AuditInv ⟨{ s.system with air, router := Function.update s.system.router d r }, s.tally⟩ := by
  refine ⟨hair, hdelivered, honce, h.net, h.tally, fun d' => ?_⟩
  dsimp only
  by_cases hd : d' = d
  · rw [hd, Function.update_self]
    exact hcounts
  · rw [Function.update_of_ne hd, (hothers d' hd).1, (hothers d' hd).2]
    exact h.router d'

/-- **The client or the service of a device takes a step**, or something happens to the connection,
and the messages that the service hands up reach the router. -/
theorem AuditInv.link (h : AuditInv s) {d : UInt32} {a : LinkAction} {buffers : List ℕ}
    {l : BleNet} {r : Router} (hfresh : DrawsFresh (s.tally d) a) (ha : ¬ a.ByRouter)
    (hl : (s.system.link d).linkStep a = some l)
    (hr : (s.system.router d).acceptAll bleTransport buffers
      (l.handedUp.drop (s.system.link d).handedUp.length) = some r) :
    AuditInv ⟨{ s.system with
      link := Function.update s.system.link d l
      router := Function.update s.system.router d r },
      Function.update s.tally d ((s.tally d).record l a)⟩ := by
  have htally := h.tallyStep hfresh hl
  -- the service has handed up what it had, and more
  have hprefix : (s.system.link d).handedUp <+: l.handedUp := by
    have hnew := htally.handedUp
    rw [record_net] at hnew
    rw [← h.net d, ← (h.tally d).handedUp, ← hnew]
    exact (handedUp_record (s.tally d) l a).map _
  have hcounts := (h.router d).acceptAll hr
  rw [if_pos (show bleTransport.type = .upstream from rfl), if_neg (by decide),
    List.append_nil] at hcounts
  have hdrop : (s.system.link d).handedUp ++ l.handedUp.drop (s.system.link d).handedUp.length =
      l.handedUp := by
    obtain ⟨new, hnew⟩ := hprefix
    rw [← hnew, List.drop_left]
  refine h.setLink (record_net _ _ _) htally ?_
  rw [serviceCalls_record ha, ← hdrop]
  exact hcounts

/-- **A device handles a frame of the air**, and the messages it delivers reach the router. -/
theorem AuditInv.receive (h : AuditInv s) {d : UInt32} {k : ℕ} {now : UInt32} {beyond : ℕ → UInt8}
    {buffers : List ℕ} {air : Net} {r : Router}
    (hfirst : NoLateFirstFragment s.system.air (.receive d k now beyond))
    (hair : s.system.air.step (.receive d k now beyond) = some air)
    (hr : (s.system.router d).acceptAll dectTransport buffers
      (((air.device d).delivered.drop (s.system.air.device d).delivered.length).map
        Delivery.data) = some r) :
    AuditInv ⟨{ s.system with air, router := Function.update s.system.router d r }, s.tally⟩ := by
  obtain ⟨hcalls, hothers⟩ := h.air.receive_frame hair
  obtain ⟨ms, hms, -⟩ := h.air.step_delivered hair d
  have hcounts := (h.router d).acceptAll hr
  rw [if_neg (by decide), if_pos (show dectTransport.type = .downstream from rfl),
    List.append_nil, hms, List.drop_left, ← List.map_append] at hcounts
  refine h.setRadio (h.air.step (a := .receive d k now beyond) trivial hair)
    (h.delivered.step h.air hair) (h.once.step h.air hfirst hair)
    (fun d' hd => ⟨hothers d' hd, hcalls d'⟩) ?_
  rw [hms, hcalls]
  exact hcounts

/-- Anything else happens on the air: a writer's next effect, a loss, a release. It starts no call
and hands nothing up, so the routers and the tallies stay. -/
theorem AuditInv.airStep (h : AuditInv s) {a : Action} {air : Net} (ha : ¬ a.Apart)
    (hair : s.system.air.step a = some air) : AuditInv ⟨{ s.system with air }, s.tally⟩ := by
  -- the assumptions of the air are about the actions that are excluded here
  have hadmits : s.system.air.Admits a := by
    cases a with
    | startWrite => exact absurd trivial ha
    | _ => trivial
  have hfirst : NoLateFirstFragment s.system.air a := by
    cases a with
    | receive => exact absurd trivial ha
    | _ => trivial
  refine ⟨h.air.step hadmits hair, h.delivered.step h.air hair, h.once.step h.air hfirst hair,
    h.net, h.tally, fun d => ?_⟩
  obtain ⟨hcalls, hdelivered⟩ := Net.step_frame ha hair d
  dsimp only
  rw [hcalls, hdelivered]
  exact h.router d

/-- The thread of a router goes on without a write: neither the air nor a connection sees it. -/
theorem AuditInv.thread (h : AuditInv s) {d : UInt32} {x : RouterAction} {r : Router}
    (hx : x.Thread) (hr : (s.system.router d).step x = some r) :
    AuditInv ⟨{ s.system with router := Function.update s.system.router d r }, s.tally⟩ :=
  h.setRadio h.air h.delivered h.once (fun _ _ => ⟨rfl, rfl⟩) ((h.router d).thread hx hr)

/-- **A router calls `dect_transport_layer_write`.** The call starts on the air in the step in which
the router's log records the write, which keeps the two counts together. -/
theorem AuditInv.writeDect (h : AuditInv s) {d : UInt32} {seqId : UInt16} {t : AlfieTransport}
    {a : ℕ} {rest : List RouterStmt} {r : Router} {air : Net}
    (htodo : (s.system.router d).todo = .write t a :: rest) (ht : t.type = .downstream)
    (hfresh : FreshSeq s.system.air (.startWrite d
      (AlfieProtoHeader.ofBytes ((s.system.router d).memory a).data).dstId seqId
      ((s.system.router d).memory a).data))
    (hr : (s.system.router d).step .run = some r)
    (hair : s.system.air.step (.startWrite d
      (AlfieProtoHeader.ofBytes ((s.system.router d).memory a).data).dstId seqId
      ((s.system.router d).memory a).data) = some air) :
    AuditInv ⟨{ s.system with air, router := Function.update s.system.router d r }, s.tally⟩ := by
  obtain ⟨hdelivered, hothers, hcalls⟩ := Net.step_startWrite hair
  refine h.setRadio (h.air.step hfresh.admits hair) (h.delivered.step h.air hair)
    (h.once.step h.air (a := .startWrite _ _ _ _) trivial hair)
    (fun d' hd => ⟨hdelivered d', hothers d' hd⟩) ?_
  rw [hdelivered]
  rcases (h.router d).write htodo hr with ⟨-, hcounts⟩ | ⟨rfl, -⟩
  · exact { hcounts with toAir := fun m => (hcalls.count_le m).trans (hcounts.toAir m) }
  · cases ht

/-- **A router calls `alfie_ble_service_write`.** The tally of the device's connection records the
call in the step in which the router's log records the write. -/
theorem AuditInv.writeBle (h : AuditInv s) {d : UInt32} {seqId : UInt16} {t : AlfieTransport}
    {a : ℕ} {rest : List RouterStmt} {r : Router} {l : BleNet}
    (htodo : (s.system.router d).todo = .write t a :: rest) (ht : t.type = .upstream)
    (hfresh : DrawsFresh (s.tally d)
      (.act (.serviceSend seqId ((s.system.router d).memory a).data)))
    (hr : (s.system.router d).step .run = some r)
    (hl : (s.system.link d).step (.serviceSend seqId ((s.system.router d).memory a).data) =
      some l) :
    AuditInv ⟨{ s.system with
      link := Function.update s.system.link d l
      router := Function.update s.system.router d r },
      Function.update s.tally d ((s.tally d).record l
        (.act (.serviceSend seqId ((s.system.router d).memory a).data)))⟩ := by
  generalize hdata : ((s.system.router d).memory a).data = data at hfresh hl ⊢
  -- a call of the service needs no connection to be made; without one it is refused
  have hlink : (s.system.link d).linkStep (.act (.serviceSend seqId data)) = some l := by
    have hconnected : (BleAction.serviceSend seqId data).Connected (s.system.link d) := trivial
    unfold BleNet.linkStep
    dsimp only
    rw [if_pos hconnected]
    exact hl
  have htally := h.tallyStep hfresh hlink
  -- the call hands nothing up
  have hup : l.handedUp = (s.system.link d).handedUp := by
    cases bleStep_of_step hl with
    | serviceSend => rfl
  -- the tally records the call unless it was refused
  have hcalls : (((s.tally d).record l (.act (.serviceSend seqId data))).serviceCalls.map
      DrawnCall.data).Sublist ((s.tally d).serviceCalls.map DrawnCall.data ++ [data]) := by
    unfold Tally.record
    dsimp only
    split
    · rw [List.map_append]
      exact List.Sublist.refl _
    · exact List.sublist_append_left _ _
  refine h.setLink (record_net _ _ _) htally ?_
  rw [hup]
  rcases (h.router d).write htodo hr with ⟨rfl, -⟩ | ⟨-, hcounts⟩
  · cases ht
  · rw [hdata] at hcounts
    exact { hcounts with toBle := fun m => (hcalls.count_le m).trans (hcounts.toBle m) }

/-- **One step**, of any part: each kind of step keeps the invariant by the lemma about it, and only
a call needs that its id is fresh. -/
theorem AuditInv.step (h : AuditInv s) {x : SystemAction} (hfresh : s.Fresh x)
    (hstep : s.step x = some s') : AuditInv s' := by
  obtain ⟨system, hsystem, rfl⟩ := Option.map_eq_some_iff.mp hstep
  cases System.step_cases hsystem with
  | @link d a buffers l r ha hl hr =>
    have hnext := h.link hfresh ha hl hr
    -- what is recorded is the tally of the connection that took the step, and no other
    unfold Audit.recorded
    dsimp only
    rw [Function.update_self]
    exact hnext
  | receive hair hr => exact h.receive hfresh hair hr
  | air ha hair => exact h.airStep ha hair
  | poll hr => exact h.thread (x := .poll _) trivial hr
  | run hr => exact h.thread (x := .run) trivial hr
  | @writeDect d seqId t a rest r air htodo ht hr hair =>
    -- which id has to be fresh depends on the transport of the statement, so the statement is put
    -- in first
    unfold Audit.Fresh Audit.WriteFresh at hfresh
    dsimp only at hfresh
    rw [htodo] at hfresh
    dsimp only at hfresh
    rw [ht] at hfresh
    have hnext := h.writeDect htodo ht hfresh hr hair
    unfold Audit.recorded
    dsimp only
    rw [htodo]
    dsimp only
    rw [ht]
    exact hnext
  | @writeBle d seqId t a rest r l htodo ht hr hl =>
    unfold Audit.Fresh Audit.WriteFresh at hfresh
    dsimp only at hfresh
    rw [htodo] at hfresh
    dsimp only at hfresh
    rw [ht] at hfresh
    have hnext := h.writeBle htodo ht hfresh hr hl
    unfold Audit.recorded
    dsimp only
    rw [htodo]
    dsimp only
    rw [ht, Function.update_self]
    exact hnext

end Steps

/-! ### The hops -/

/-- How often one call over BLE can be delivered: with every attempt if it may have a single
fragment. -/
def copies (m : List UInt8) : ℕ := if maxDataFramePayload < m.length then 1 else maxTxAttempts

section Hops

variable {callback : TransportRxCallback Unit} {t : Tally} {s : Audit}

/-- **From a client to its device**: the service hands up a message at most `copies` times for each
call of the client with these bytes. -/
theorem TallyInv.count_handedUp (h : TallyInv callback t) (m : List UInt8) :
    t.net.handedUp.count m ≤ copies m * (t.clientCalls.map DrawnCall.data).count m := by
  obtain ⟨look, hup⟩ := h.upward
  have hdata : t.clientCalls.map DrawnCall.data =
      (t.clientCalls.map fun call => (call.seqId, call.data)).map Prod.snd := by
    rw [List.map_map]
    rfl
  rw [← h.handedUp, hdata]
  apply count_map_le
  rintro x rfl
  exact hup.count_le_of_length (by decide) (fun o ho => ho) x

/-- **From a device to its client**: the client delivers a message at most `copies` times for each
call of the service with these bytes. -/
theorem TallyInv.count_messages (h : TallyInv callback t) (m : List UInt8) :
    t.net.messages.count m ≤ copies m * (t.serviceCalls.map DrawnCall.data).count m := by
  obtain ⟨look, hdown⟩ := h.downward
  have hdata : t.serviceCalls.map DrawnCall.data =
      (t.serviceCalls.map fun call => (call.seqId, call.data)).map Prod.snd := by
    rw [List.map_map]
    rfl
  rw [← h.messages, hdata]
  apply count_map_le
  rintro x rfl
  exact hdown.count_le_of_length (by decide) (fun o ho => ho.2) x

/-- The messages of one source are as many calls of it. -/
theorem AuditInv.count_source (h : AuditInv s) (d a : UInt32) (m : List UInt8) :
    ((s.system.air.device d).delivered.countP fun x => x.data == m && x.srcId = a) ≤
      ((s.system.air.device a).calls.map Call.data).count m := by
  rw [List.countP_eq_length_filter]
  generalize hxs : (s.system.air.device d).delivered.filter
    (fun x => x.data == m && x.srcId = a) = xs
  have hmem : ∀ x ∈ xs, x ∈ (s.system.air.device d).delivered ∧ x.data = m ∧ x.srcId = a := by
    intro x hx
    rw [← hxs] at hx
    simpa using List.mem_filter.mp hx
  -- they have different numbers
  have hnodup : (xs.map Delivery.seqId).Nodup := by
    have hkeys : (xs.map Delivery.key).Nodup := by
      rw [← hxs]
      exact (h.once d).nodup.sublist ((List.filter_sublist).map _)
    -- the keys are different, and the source in them is the same
    have hkey : xs.map Delivery.key = (xs.map Delivery.seqId).map (Prod.mk a) := by
      rw [List.map_map]
      refine List.map_congr_left fun x hx => ?_
      rw [← (hmem x hx).2.2]
      rfl
    rw [hkey] at hkeys
    exact hkeys.of_map
  -- each of them is the number of a call of this source with these bytes
  have hsub : xs.map Delivery.seqId ⊆
      ((s.system.air.device a).calls.filter fun call => call.data == m).map Call.seqId := by
    intro seqId hseq
    obtain ⟨x, hx, rfl⟩ := List.mem_map.mp hseq
    obtain ⟨hdelivered, hdata, rfl⟩ := hmem x hx
    obtain ⟨call, hcall, -, hseqId, hcdata⟩ := h.delivered d x hdelivered
    exact List.mem_map.mpr
      ⟨call, List.mem_filter.mpr ⟨hcall, by simpa using hcdata.trans hdata⟩, hseqId⟩
  calc xs.length
      = (xs.map Delivery.seqId).length := (List.length_map _).symm
    _ ≤ (((s.system.air.device a).calls.filter fun call => call.data == m).map
          Call.seqId).length := (hnodup.subperm hsub).length_le
    _ = ((s.system.air.device a).calls.map Call.data).count m := by
        rw [List.length_map, List.count, List.countP_map, List.countP_eq_length_filter]
        rfl

/-- **Over the air**, where every call is delivered at most once by a device: the deliveries are
among the calls of some set of devices, which is what the sum below is over. -/
theorem AuditInv.count_delivered (h : AuditInv s) (d : UInt32) (m : List UInt8) :
    ∃ S : Finset UInt32, ((s.system.air.device d).delivered.map Delivery.data).count m ≤
      ∑ a ∈ S, ((s.system.air.device a).calls.map Call.data).count m := by
  refine ⟨((s.system.air.device d).delivered.map Delivery.srcId).toFinset, ?_⟩
  have hcount : ((s.system.air.device d).delivered.map Delivery.data).count m =
      (s.system.air.device d).delivered.countP fun x => x.data == m := by
    rw [List.count, List.countP_map]
    rfl
  rw [hcount, countP_eq_sum _ Delivery.srcId _ fun x hx =>
    List.mem_toFinset.mpr (List.mem_map_of_mem hx)]
  exact Finset.sum_le_sum fun a _ => h.count_source d a m

end Hops

/-! ### The result -/

/-- What a client sends with an action; nothing, for an action of another part. -/
def SystemAction.sends : SystemAction → List (List UInt8)
  | .link _ a _ => clientSends [a]
  | _ => []

/-- What the client of device `d` sends with it, to count the sends of each device apart. -/
def SystemAction.sendsOf (d : UInt32) : SystemAction → List (List UInt8)
  | .link d' a _ => if d' = d then clientSends [a] else []
  | _ => []

/-- What all the clients send in a run, in the order of the run. -/
def allSends (as : List SystemAction) : List (List UInt8) := as.flatMap SystemAction.sends

/-- The calls that the tally records of a client are its sends, byte for byte. -/
theorem clientCalls_record (t : Tally) (net : BleNet) (a : LinkAction) :
    (t.record net a).clientCalls.map DrawnCall.data =
      t.clientCalls.map DrawnCall.data ++ clientSends [a] := by
  unfold Tally.record
  split
  · -- a send, which is recorded; every other action neither sends nor is recorded as a call
    rw [List.map_append]
    rfl
  · split <;> exact (List.append_nil _).symm
  · exact (List.append_nil _).symm
  · exact (List.append_nil _).symm
  · next h _ _ _ =>
    -- what is left is no send
    have hnone : clientSends [a] = [] := by
      unfold clientSends
      cases a with
      | act a =>
        cases a with
        | clientSend seqId data => exact absurd rfl (h seqId data)
        | _ => rfl
      | _ => rfl
    rw [hnone, List.append_nil]

/-- A write over BLE is recorded as a call of the service, and one over the air is not. -/
theorem Audit.recorded_write (s : Audit) (s' : System) (d : UInt32) (seqId : UInt16) :
    s.recorded s' (.write d seqId) = s.tally ∨ ∃ data, s.recorded s' (.write d seqId) =
      Function.update s.tally d
        ((s.tally d).record (s'.link d) (.act (.serviceSend seqId data))) := by
  unfold Audit.recorded
  dsimp only
  split
  · split
    · exact .inr ⟨_, rfl⟩
    · exact .inl rfl
  · exact .inl rfl

/-- A step of the system records the sends of each client, and no others: a write of the router is a
call of the service, not of the client. -/
theorem Audit.clientCalls_step {s s' : Audit} {x : SystemAction} (hstep : s.step x = some s')
    (d : UInt32) :
    (s'.tally d).clientCalls.map DrawnCall.data =
      (s.tally d).clientCalls.map DrawnCall.data ++ x.sendsOf d := by
  obtain ⟨system, -, rfl⟩ := Option.map_eq_some_iff.mp hstep
  have hupdate : ∀ (d' : UInt32) (a : LinkAction) (net : BleNet),
      ((Function.update s.tally d' ((s.tally d').record net a)) d).clientCalls.map DrawnCall.data =
        (s.tally d).clientCalls.map DrawnCall.data ++ if d' = d then clientSends [a] else [] := by
    intro d' a net
    -- the tally of the connection that the step is of, and the others
    by_cases hd : d' = d
    · rw [hd, Function.update_self, if_pos rfl, clientCalls_record]
    · rw [Function.update_of_ne (Ne.symm hd), if_neg hd, List.append_nil]
  cases x with
  | link d' a buffers => exact hupdate d' a (system.link d')
  | write d' seqId =>
    dsimp only
    rcases s.recorded_write system d' seqId with hnone | ⟨data, hcall⟩
    · -- the router's write either recorded nothing or one call of the service
      rw [hnone]
      exact (List.append_nil _).symm
    · rw [hcall, hupdate]
      congr 1
      exact ite_self _
  | _ => exact (List.append_nil _).symm

/-- The sends of some clients are among those of all. Each action sends for one client, so no send
is counted twice in the sum. -/
theorem sum_count_le (S : Finset UInt32) (as : List SystemAction) (m : List UInt8) :
    ∑ d ∈ S, (as.flatMap (SystemAction.sendsOf d)).count m ≤ (allSends as).count m := by
  induction as with
  | nil => simp [allSends]
  | cons x as ih =>
    -- for one action at most one summand is not zero
    have hone : ∑ d ∈ S, (x.sendsOf d).count m ≤ x.sends.count m := by
      cases x with
      | link d' a buffers =>
        have hterm : ∀ d, ((SystemAction.link d' a buffers).sendsOf d).count m =
            if d' = d then (clientSends [a]).count m else 0 := by
          intro d
          show (if d' = d then clientSends [a] else []).count m = _
          split <;> rfl
        rw [Finset.sum_congr rfl fun d _ => hterm d, Finset.sum_ite_eq]
        split
        · exact le_rfl
        · exact Nat.zero_le _
      | _ => simp [SystemAction.sendsOf]
    unfold allSends at ih ⊢
    simp only [List.flatMap_cons, List.count_append, Finset.sum_add_distrib]
    exact Nat.add_le_add hone ih

/-- **How often a message is shown.** In a run of the whole system in which every call draws a fresh
number and no radio handles fragment 0 of a message it has handed up, a client delivers a message of
more than 243 bytes at most as often as the clients have sent it, and a shorter one at most 16 times
as often. -/
theorem system_shows_le (endpoints : List AlfieEndpoint) (memory : ℕ → CompletedBuffer)
    (as : List SystemAction) (s : Audit)
    (h : Steps Audit.step Audit.Fresh (.init endpoints memory) as s) :
    Steps System.step (fun _ _ => True) (.init endpoints memory) as s.system ∧
      ∀ d m, (s.system.link d).messages.count m ≤ copies m * copies m * (allSends as).count m := by
  refine ⟨Audit.run_system h, fun d m => ?_⟩
  have hinv : AuditInv s :=
    h.invariant (fun _ _ _ hs hfresh hstep => hs.step hfresh hstep) (.init endpoints memory)
  -- what a client sent is what its tally has recorded of it
  have hcalls : ∀ a, (s.tally a).clientCalls.map DrawnCall.data =
      as.flatMap (SystemAction.sendsOf a) := fun a =>
    h.history (f := fun s => (s.tally a).clientCalls.map DrawnCall.data)
      fun _ _ _ _ hstep => Audit.clientCalls_step hstep a
  -- from a client through its device
  have hsource : ∀ a, ((s.system.air.device a).calls.map Call.data).count m ≤
      copies m * (as.flatMap (SystemAction.sendsOf a)).count m := by
    intro a
    have hup := (hinv.tally a).count_handedUp m
    rw [hinv.net a, hcalls a] at hup
    exact ((hinv.router a).le m).1.trans hup
  -- over the air, from whichever devices; then through the receiving device to its client
  obtain ⟨S, hair⟩ := hinv.count_delivered d m
  have hdown := (hinv.tally d).count_messages m
  rw [hinv.net d] at hdown
  calc (s.system.link d).messages.count m
      ≤ copies m * ((s.tally d).serviceCalls.map DrawnCall.data).count m := hdown
    _ ≤ copies m * ((s.system.air.device d).delivered.map Delivery.data).count m :=
        Nat.mul_le_mul_left _ ((hinv.router d).le m).2
    _ ≤ copies m * ∑ a ∈ S, ((s.system.air.device a).calls.map Call.data).count m :=
        Nat.mul_le_mul_left _ hair
    _ ≤ copies m * ∑ a ∈ S, copies m * (as.flatMap (SystemAction.sendsOf a)).count m :=
        Nat.mul_le_mul_left _ (Finset.sum_le_sum fun a _ => hsource a)
    _ = copies m * copies m * ∑ a ∈ S, (as.flatMap (SystemAction.sendsOf a)).count m := by
        rw [← Finset.mul_sum, Nat.mul_assoc]
    _ ≤ copies m * copies m * (allSends as).count m :=
        Nat.mul_le_mul_left _ (sum_count_le S as m)

instance (s : Audit) (d : UInt32) (seqId : UInt16) (stmts : List RouterStmt) :
    Decidable (s.WriteFresh d seqId stmts) :=
  match stmts with
  | .write ⟨_, .downstream⟩ a :: _ =>
    inferInstanceAs (Decidable (FreshSeq s.system.air (.startWrite d
      (AlfieProtoHeader.ofBytes ((s.system.router d).memory a).data).dstId seqId
      ((s.system.router d).memory a).data)))
  | .write ⟨_, .upstream⟩ a :: _ =>
    inferInstanceAs (Decidable (DrawsFresh (s.tally d)
      (.act (.serviceSend seqId ((s.system.router d).memory a).data))))
  | .notifyEndpoint _ :: _ => instDecidableTrue
  | .unref _ :: _ => instDecidableTrue
  | [] => instDecidableTrue

instance (s : Audit) (x : SystemAction) : Decidable (s.Fresh x) :=
  x.casesOn (motive := fun x => Decidable (s.Fresh x))
    (fun d a _ => inferInstanceAs (Decidable (DrawsFresh (s.tally d) a)))
    (fun d k now beyond _ =>
      inferInstanceAs (Decidable (NoLateFirstFragment s.system.air (.receive d k now beyond))))
    (fun _ => instDecidableTrue) (fun _ _ => instDecidableTrue) (fun _ => instDecidableTrue)
    fun d seqId => inferInstanceAs (Decidable (s.WriteFresh d seqId (s.system.router d).todo))

/-- A letter from the client of device 1 that reaches the client of device 2: it is shown once, well
below what the bound admits for it. -/
theorem system_shows_le_oneLetter : ∃ s : Audit,
    Steps Audit.step Audit.Fresh (.init [] fun _ => toEndpointThree) oneLetterSent s ∧
      (s.system.link 2).messages = [oneLetter] ∧
      ∀ d m, (s.system.link d).messages.count m ≤
        copies m * copies m * (allSends oneLetterSent).count m := by
  have hend : ∃ s ∈ checkRun Audit.step Audit.Fresh (.init [] fun _ => toEndpointThree)
      oneLetterSent, (s.system.link 2).messages = [oneLetter] := by
    decide +kernel
  obtain ⟨s, hs, hmessages⟩ := hend
  have hrun := steps_of_checkRun hs
  obtain ⟨-, hle⟩ := system_shows_le [] _ oneLetterSent s hrun
  exact ⟨s, hrun, hmessages, hle⟩

end DectCommunicator

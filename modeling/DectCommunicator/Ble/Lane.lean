import DectCommunicator.Ble.Provenance
import DectCommunicator.Lib.Repeats

/-!
# One direction with its repetitions

What is sent in one direction between the two ends, how often, and in which order it arrives. A
`Lane` is what the argument needs to know of a direction: the suspended call, the channel, the calls
that have drawn a `seq_id`, and the messages delivered with theirs.

`LaneInv` follows every call with the invariant `Repeats` of its transfer. It has a rule for every
effect of the sender, `LaneInv.arrive` for a frame that reaches the receiver, and `LaneInv.mono` for
the steps of everything else, a lost connection among them. `LaneInv.count_le` is what it is for.
-/

namespace DectCommunicator

open LittleEndian StopAndWait

/-! ### Ranks -/

/-- The index of a data frame, by which the frames of a call are ordered. -/
def fragRank (x : List UInt8) : ℕ := (AlfieBleServiceProtoDataFrame.ofBytes x).fragIdx.toNat

/-- The indices of the data frames in a channel under `seqId`, in the order in which they will
arrive. -/
def ranksUnder (seqId : UInt16) (channel : List (List UInt8)) : List ℕ :=
  channel.filterMap fun x =>
    if bleFrameTypeOf x = some .data ∧ (AlfieBleServiceProtoDataFrame.ofBytes x).seqId = seqId then
      some (fragRank x)
    else none

section Ranks

variable {seqId : UInt16} {channel : List (List UInt8)}

/-- What is sent last arrives last, so its index is behind the others. -/
theorem ranksUnder_append (l r : List (List UInt8)) :
    ranksUnder seqId (l ++ r) = ranksUnder seqId l ++ ranksUnder seqId r :=
  List.filterMap_append

/-- What is lost from the channel is lost from the indices, which keep their order. -/
theorem ranksUnder_sublist {rest : List (List UInt8)} (h : rest.Sublist channel) :
    (ranksUnder seqId rest).Sublist (ranksUnder seqId channel) :=
  h.filterMap _

/-- A data frame contributes its index under its own `seq_id` and nothing under another. -/
theorem ranksUnder_cons_data (f : AlfieBleServiceProtoDataFrame) :
    ranksUnder seqId (f.toBytes :: channel) =
      if f.seqId = seqId then f.fragIdx.toNat :: ranksUnder seqId channel
      else ranksUnder seqId channel := by
  have htype := bleFrameTypeOf_data f
  have hbytes := AlfieBleServiceProtoDataFrame.ofBytes_toBytes f
  unfold ranksUnder fragRank
  rw [List.filterMap_cons, htype, hbytes]
  by_cases hseq : f.seqId = seqId
  · rw [if_pos ⟨rfl, hseq⟩, if_pos hseq]
  · rw [if_neg fun h => hseq h.2, if_neg hseq]

/-- The ACKs that share a channel with the data frames do not count. -/
theorem ranksUnder_acks {acks : List (List UInt8)}
    (h : ∀ x ∈ acks, ∃ a : AlfieBleServiceProtoDataAckFrame, x = a.toBytes) :
    ranksUnder seqId acks = [] := by
  unfold ranksUnder
  rw [List.filterMap_eq_nil_iff]
  intro x hx
  obtain ⟨a, rfl⟩ := h x hx
  -- the type in the header tells them apart
  apply if_neg
  rintro ⟨htype, -⟩
  rw [bleFrameTypeOf_ack] at htype
  cases htype

/-- Where there is no frame under a `seq_id` there is no index, which is how a call finds its
number. -/
theorem ranksUnder_eq_nil (h : ∀ x ∈ channel, bleFrameTypeOf x = some .data →
    (AlfieBleServiceProtoDataFrame.ofBytes x).seqId ≠ seqId) : ranksUnder seqId channel = [] := by
  unfold ranksUnder
  rw [List.filterMap_eq_nil_iff]
  intro x hx
  exact if_neg fun hdata => h x hx hdata.1 hdata.2

variable (o : Outgoing)

/-- The rank of a frame is its place in the call, an index of at most 255 being read back as it
is. -/
theorem Outgoing.fragRank_frame {i : ℕ} (hi : i < o.count) : fragRank (o.frame i).toBytes = i := by
  unfold fragRank
  rw [AlfieBleServiceProtoDataFrame.ofBytes_toBytes]
  exact o.fragIdx_toNat hi

/-- The frames of a call are in the order of their indices, as `Repeats` asks of what is sent. -/
theorem Outgoing.frames_sorted : o.frames.Pairwise fun x y => fragRank x ≤ fragRank y := by
  unfold Outgoing.frames
  rw [List.pairwise_map]
  refine List.pairwise_lt_range.imp_of_mem ?_
  intro i j hi hj hlt
  rw [o.fragRank_frame (List.mem_range.mp hi), o.fragRank_frame (List.mem_range.mp hj)]
  exact hlt.le

/-- A call sends as many frames as it announces. -/
theorem Outgoing.length_frames : o.frames.length = o.count := by
  unfold Outgoing.frames
  rw [List.length_map, List.length_range]

/-- The only fragment of a call holds all the data, so a message longer than a fragment has
several. -/
theorem Outgoing.length_le_size (hsize : 0 < o.size) (hone : o.count = 1) :
    o.data.length ≤ o.size := by
  have hcount : Chunks.count o.size o.data.length ≤ 1 := (le_max_right 1 _).trans hone.le
  calc o.data.length
      ≤ o.size * Chunks.count o.size o.data.length := Chunks.le_count_mul hsize _
    _ ≤ o.size * 1 := Nat.mul_le_mul_left _ hcount
    _ = o.size := Nat.mul_one _

end Ranks

/-! ### One direction -/

/-- A call that has drawn a `seq_id`, with the number of its fragments. A call that is refused
before that sends nothing and is not recorded. -/
structure DrawnCall where
  seqId : UInt16
  data : List UInt8
  fragTotal : ℕ
deriving DecidableEq, Repr

/-- One direction: its sender, its channel, the calls that have drawn a `seq_id`, the messages
delivered with theirs, and what the receiver has of a call: nothing (`closed`), or a part of it that
it can go on with (`fit`). -/
structure Lane (ε : Type) where
  writer : Option (BleCall × Proc ε (List UInt8) (Status ε))
  channel : List (List UInt8)
  calls : List DrawnCall
  tally : List (UInt16 × List UInt8)
  closed : Outgoing → Prop
  fit : Outgoing → Prop

/-- How often a message has been delivered under a `seq_id`, whatever its bytes. -/
def Lane.times {ε : Type} (l : Lane ε) (seqId : UInt16) : ℕ := (l.tally.map Prod.fst).count seqId

/-- The receiver gets the `i`-th frame of a call: it delivers nothing, or all the data. A delivery
needs the last frame, and one in a state without a part of the call needs that frame to be the first
too, so a second delivery is possible for a single fragment only. -/
inductive Arrives (o : Outgoing) (i : ℕ) (closed closed' : Prop) : List (List UInt8) → Prop
  | nothing (h : closed → 0 < i → closed') : Arrives o i closed closed' []
  | completed (hsize : 0 < o.size) (hlast : i + 1 = o.count) (hbegun : closed → i = 0)
      (hclosed : closed') : Arrives o i closed closed' [o.data]

/-- **The invariant of a direction.** `look` gives the call that has drawn a `seq_id`, and `Made`
holds of every call of the sender. Of each such call `Repeats` counts the copies under way, those
still to be sent and the deliveries, in `repeats`. -/
structure LaneInv {ε : Type} (attempts : ℕ) (Made : Outgoing → Prop)
    (look : UInt16 → Option Outgoing) (l : Lane ε) : Prop where
  call : ∀ seqId o, look seqId = some o →
    o.seqId = seqId ∧ ⟨seqId, o.data, o.count⟩ ∈ l.calls ∧ Made o ∧ l.fit o
  fresh : ∀ o : Outgoing, look o.seqId = none → l.fit o
  channel : ∀ x ∈ l.channel, Carried look x
  writer : ∀ call p, l.writer = some (call, p) →
    p.SendsOnly fun x => ∃ o, look call.seqId = some o ∧ x ∈ o.frames
  repeats : ∀ seqId o, look seqId = some o → ∃ low budget,
    Repeats o.count attempts (ranksUnder seqId l.channel) low budget (l.times seqId) (l.closed o) ∧
      ∀ call p, l.writer = some (call, p) → call.seqId = seqId →
        p.Ascends fragRank low ∧ p.Within sendPrices budget
  tally : ∀ x ∈ l.tally, ∃ o, look x.1 = some o ∧ o.data = x.2 ∧ 0 < o.size

section Rules

variable {ε : Type} {attempts : ℕ} {Made : Outgoing → Prop} {look : UInt16 → Option Outgoing}
  {l l' : Lane ε} {call : BleCall}

/-- A direction before the first connection: no number has been drawn and nothing is under way. -/
theorem LaneInv.init (hwriter : l.writer = none) (hchannel : l.channel = []) (htally : l.tally = [])
    (hfit : ∀ o, l.fit o) : LaneInv attempts Made (fun _ => none) l where
  call _ _ ho := by cases ho
  fresh o _ := hfit o
  channel x hx := by
    rw [hchannel] at hx
    exact absurd hx List.not_mem_nil
  writer call p hw := by
    rw [hwriter] at hw
    cases hw
  repeats _ _ ho := by cases ho
  tally x hx := by
    rw [htally] at hx
    exact absurd hx List.not_mem_nil

/-- **A step of everything else**, in which frames may be lost. A connection that goes down is such
a step, since it empties the channel and what the receiver holds may become closed. -/
theorem LaneInv.mono (h : LaneInv attempts Made look l) (hwriter : l'.writer = l.writer)
    (hcalls : l.calls ⊆ l'.calls) (htally : l'.tally = l.tally)
    (hchannel : l'.channel.Sublist l.channel) (hclosed : ∀ o, l.closed o → l'.closed o)
    (hfit : ∀ o, l.fit o → l'.fit o) : LaneInv attempts Made look l' where
  call seqId o ho := by
    obtain ⟨hseq, hcall, hmade, hf⟩ := h.call seqId o ho
    exact ⟨hseq, hcalls hcall, hmade, hfit o hf⟩
  fresh o ho := hfit o (h.fresh o ho)
  channel x hx := h.channel x (hchannel.subset hx)
  writer call p hw := h.writer call p (hwriter ▸ hw)
  repeats seqId o ho := by
    obtain ⟨low, budget, hrepeats, hp⟩ := h.repeats seqId o ho
    refine ⟨low, budget, ?_, fun call p hw => hp call p (hwriter ▸ hw)⟩
    unfold Lane.times
    rw [htally]
    exact hrepeats.mono (ranksUnder_sublist hchannel) (hclosed o)
  tally x hx := h.tally x (htally ▸ hx)

/-- ACKs are put into the channel, where they stand between the data frames without an index. -/
theorem LaneInv.acks (h : LaneInv attempts Made look l) {acks : List (List UInt8)}
    (hacks : ∀ x ∈ acks, ∃ a : AlfieBleServiceProtoDataAckFrame, x = a.toBytes) :
    LaneInv attempts Made look { l with channel := l.channel ++ acks } where
  call := h.call
  fresh := h.fresh
  channel := List.forall_mem_append.mpr ⟨h.channel, fun x hx => by
    obtain ⟨a, rfl⟩ := hacks x hx
    exact .ack a⟩
  writer := h.writer
  repeats seqId o ho := by
    dsimp only
    rw [ranksUnder_append, ranksUnder_acks hacks, List.append_nil]
    exact h.repeats seqId o ho
  tally := h.tally

/-- The sender takes an effect that puts nothing into the channel, so the counts stay as they
are. -/
theorem LaneInv.resume (h : LaneInv attempts Made look l)
    {p k : Proc ε (List UInt8) (Status ε)} (hw : l.writer = some (call, p))
    (hsends : ∀ {S : List UInt8 → Prop}, p.SendsOnly S → k.SendsOnly S)
    (hascends : ∀ {n}, p.Ascends fragRank n → k.Ascends fragRank n)
    (hwithin : ∀ {n}, p.Within sendPrices n → k.Within sendPrices n) :
    LaneInv attempts Made look { l with writer := some (call, k) } where
  call := h.call
  fresh := h.fresh
  channel := h.channel
  writer call' q hq := by
    obtain ⟨rfl, rfl⟩ := Prod.mk.inj (Option.some.inj hq)
    exact hsends (h.writer call p hw)
  repeats seqId o ho := by
    obtain ⟨low, budget, hrepeats, hp⟩ := h.repeats seqId o ho
    refine ⟨low, budget, hrepeats, fun call' q hq hseq => ?_⟩
    obtain ⟨rfl, rfl⟩ := Prod.mk.inj (Option.some.inj hq)
    obtain ⟨ha, hb⟩ := hp call p hw hseq
    exact ⟨hascends ha, hwithin hb⟩
  tally := h.tally

/-- The frame cannot be sent. The attempt is used up all the same, so the bound on the copies
holds. -/
theorem LaneInv.send_err (h : LaneInv attempts Made look l)
    {x : List UInt8} {k : Status ε → Proc ε (List UInt8) (Status ε)}
    (hw : l.writer = some (call, .send x k)) (e : ε) :
    LaneInv attempts Made look { l with writer := some (call, k (.err e)) } :=
  h.resume hw (fun hk => hk.2 _) (fun hk => (hk.2 _).mono hk.1)
    fun hk => (hk.2 _).mono (Nat.sub_le _ _)

/-- The wait ends, with an ACK or by its timeout. -/
theorem LaneInv.take (h : LaneInv attempts Made look l)
    {timeoutMs : ℕ} {k : Status ε → Proc ε (List UInt8) (Status ε)}
    (hw : l.writer = some (call, .take timeoutMs k)) (r : Status ε) :
    LaneInv attempts Made look { l with writer := some (call, k r) } :=
  h.resume hw (fun hk => hk r) (fun hk => hk r) fun hk => hk.2 r

/-- A call is refused before it draws a number, and sends nothing. -/
theorem LaneInv.refuse (h : LaneInv attempts Made look l) (call : BleCall) (r : Status ε) :
    LaneInv attempts Made look { l with writer := some (call, .ret r) } where
  call := h.call
  fresh := h.fresh
  channel := h.channel
  writer call' q hq := by
    obtain ⟨-, rfl⟩ := Prod.mk.inj (Option.some.inj hq)
    trivial
  repeats seqId o ho := by
    -- the calls before keep their counts, none of them being the suspended one
    obtain ⟨low, budget, hrepeats, -⟩ := h.repeats seqId o ho
    refine ⟨low, budget, hrepeats, fun call' q hq _ => ?_⟩
    obtain ⟨-, rfl⟩ := Prod.mk.inj (Option.some.inj hq)
    exact ⟨trivial, Nat.zero_le _⟩
  tally := h.tally

/-- The call returns, or is cancelled. Its copies stay under way and can still be delivered. -/
theorem LaneInv.stop (h : LaneInv attempts Made look l) :
    LaneInv attempts Made look ({ l with writer := none } : Lane ε) where
  call := h.call
  fresh := h.fresh
  channel := h.channel
  writer _ _ hq := by cases hq
  repeats seqId o ho := by
    obtain ⟨low, budget, hrepeats, -⟩ := h.repeats seqId o ho
    exact ⟨low, budget, hrepeats, fun _ _ hq => by cases hq⟩
  tally := h.tally

/-- **A frame is sent**: one more copy of its index is under way, and one fewer is left to send. -/
theorem LaneInv.send (h : LaneInv attempts Made look l) {x : List UInt8}
    {k : Status ε → Proc ε (List UInt8) (Status ε)} (hw : l.writer = some (call, .send x k)) :
    LaneInv attempts Made look
      { l with writer := some (call, k .ok), channel := l.channel ++ [x] } := by
  obtain ⟨⟨o, hlook, hx⟩, hk⟩ := h.writer call _ hw
  obtain ⟨i, hi, rfl⟩ := List.mem_map.mp hx
  have hlt : i < o.count := List.mem_range.mp hi
  have hoseq := (h.call _ o hlook).1
  have hcarried : Carried look (o.frame i).toBytes := .frame ⟨o, i, hoseq.symm ▸ hlook, hlt, rfl⟩
  refine ⟨h.call, h.fresh, ?_, ?_, ?_, h.tally⟩
  · exact List.forall_mem_append.mpr ⟨h.channel, List.forall_mem_singleton.mpr hcarried⟩
  · intro call' q hq
    obtain ⟨rfl, rfl⟩ := Prod.mk.inj (Option.some.inj hq)
    exact hk .ok
  · intro seqId o' ho'
    obtain ⟨low, budget, hrepeats, hp⟩ := h.repeats seqId o' ho'
    have hranks : ranksUnder seqId [(o.frame i).toBytes] = _ := ranksUnder_cons_data (o.frame i)
    show ∃ low budget, Repeats _ _ (ranksUnder seqId (l.channel ++ [_])) low budget _ _ ∧ _
    rw [ranksUnder_append, hranks]
    by_cases hseq : call.seqId = seqId
    · -- a frame of this very call, so its index is counted
      obtain ⟨⟨hlow, hascends⟩, ⟨hbudget, hwithin⟩⟩ := hp call _ hw hseq
      rw [o.fragRank_frame hlt] at hlow hascends
      rw [if_pos (show (o.frame i).seqId = seqId from hoseq.trans hseq)]
      refine ⟨i, budget - 1, ?_, fun call' q hq _ => ?_⟩
      · rw [o.fragIdx_toNat hlt]
        exact hrepeats.send hlow hbudget
      · obtain ⟨-, rfl⟩ := Prod.mk.inj (Option.some.inj hq)
        exact ⟨hascends .ok, hwithin .ok⟩
    · -- a frame of another call, which this one does not count
      rw [if_neg (show ¬ (o.frame i).seqId = seqId from fun hs => hseq (hoseq.symm.trans hs)),
        show ranksUnder seqId [] = [] from rfl, List.append_nil]
      refine ⟨low, budget, hrepeats, fun call' q hq hs => ?_⟩
      obtain ⟨rfl, -⟩ := Prod.mk.inj (Option.some.inj hq)
      exact absurd hs hseq

/-- The receiver delivers something more under a `seq_id`, or nothing. Under any other the count
stays. -/
theorem Lane.times_append {new : List (List UInt8)} {seqId : UInt16}
    (htally : l'.tally = l.tally ++ new.map (seqId, ·)) (seqId' : UInt16) :
    l'.times seqId' = l.times seqId' + if seqId = seqId' then new.length else 0 := by
  have hfst : (new.map (seqId, ·)).map Prod.fst = List.replicate new.length seqId := by
    rw [List.map_map]
    exact List.map_const' ..
  unfold Lane.times
  rw [htally, List.map_append, List.count_append, hfst, List.count_replicate]
  congr 1
  by_cases hseq : seqId = seqId'
  · rw [if_pos hseq, if_pos (beq_iff_eq.mpr hseq)]
  · rw [if_neg hseq, if_neg fun hbeq => hseq (beq_iff_eq.mp hbeq)]

/-- **A data frame reaches the receiver.** -/
theorem LaneInv.arrive (h : LaneInv attempts Made look l) {f : AlfieBleServiceProtoDataFrame}
    {rest new : List (List UInt8)} (hchannel : l.channel = f.toBytes :: rest)
    (hwriter : l'.writer = l.writer) (hcalls : l'.calls = l.calls) (hrest : l'.channel = rest)
    (htally : l'.tally = l.tally ++ new.map (f.seqId, ·))
    (hself : ∀ o i, f = o.frame i → i < o.count → Made o → l.fit o →
      Arrives o i (l.closed o) (l'.closed o) new ∧ l'.fit o)
    (hother : ∀ o : Outgoing, f.seqId ≠ o.seqId →
      (l.closed o → l'.closed o) ∧ (l.fit o → l'.fit o)) :
    LaneInv attempts Made look l' := by
  have hmem : f.toBytes ∈ l.channel := by
    rw [hchannel]
    exact List.mem_cons_self
  -- the frame is one of the call that has drawn its `seq_id`
  obtain ⟨o, i, hlook, hi, hf⟩ := (h.channel _ hmem).eq_frame
  obtain ⟨hoseq, hcall, hmade, hofit⟩ := h.call _ o hlook
  obtain ⟨harrives, hofit'⟩ := hself o i hf hi hmade hofit
  -- what the receiver holds stays fit: for this call by what it did, for the others as it was not
  -- touched
  have hfit : ∀ seqId o', look seqId = some o' → o'.seqId = seqId → l.fit o' → l'.fit o' := by
    intro seqId o' ho' hseq hfit
    by_cases heq : f.seqId = o'.seqId
    · have hsame : o' = o := by
        rw [← hseq, ← heq, hlook] at ho'
        exact (Option.some.inj ho').symm
      rw [hsame]
      exact hofit'
    · exact (hother o' heq).2 hfit
  refine ⟨?_, ?_, ?_, ?_, ?_, ?_⟩
  · intro seqId o' ho'
    obtain ⟨hseq, hcall', hmade', hfit'⟩ := h.call seqId o' ho'
    exact ⟨hseq, hcalls ▸ hcall', hmade', hfit seqId o' ho' hseq hfit'⟩
  · intro o' ho'
    refine (hother o' fun heq => ?_).2 (h.fresh o' ho')
    rw [← heq, hlook] at ho'
    cases ho'
  · intro x hx
    apply h.channel x
    rw [hchannel]
    exact List.mem_cons_of_mem _ (hrest ▸ hx)
  · intro call p hw
    exact h.writer call p (hwriter ▸ hw)
  · intro seqId o' ho'
    -- the counts: the frame leaves the channel, and the message may have been completed by it
    obtain ⟨low, budget, hrepeats, hp⟩ := h.repeats seqId o' ho'
    refine ⟨low, budget, ?_, fun call p hw => hp call p (hwriter ▸ hw)⟩
    rw [hchannel, ranksUnder_cons_data] at hrepeats
    rw [hrest, Lane.times_append htally]
    by_cases hseq : f.seqId = seqId
    · obtain rfl : o' = o := by
        rw [← hseq, hlook] at ho'
        exact (Option.some.inj ho').symm
      have hidx : f.fragIdx.toNat = i := by
        rw [hf]
        exact o'.fragIdx_toNat hi
      rw [if_pos hseq, hidx] at hrepeats
      rw [if_pos hseq]
      cases harrives with
      | nothing hclosed => exact hrepeats.arrive hclosed
      | completed _ hlast hbegun hclosed => exact hrepeats.complete hlast hbegun hclosed
    · rw [if_neg hseq] at hrepeats
      rw [if_neg hseq, Nat.add_zero]
      -- another call, whose frames and completions stay as they were
      have hne : f.seqId ≠ o'.seqId := by
        rw [(h.call seqId o' ho').1]
        exact hseq
      exact hrepeats.mono (List.Sublist.refl _) (hother o' hne).1
  · intro x hx
    rw [htally] at hx
    rcases List.mem_append.mp hx with hx | hx
    · exact h.tally x hx
    · obtain ⟨data, hdata, rfl⟩ := List.mem_map.mp hx
      refine ⟨o, hlook, ?_⟩
      cases harrives with
      | nothing => cases hdata
      | completed hsize => exact ⟨(List.mem_singleton.mp hdata).symm, hsize⟩

/-- A `seq_id` that no call has drawn is not looked up, the calls that are being the recorded
ones. -/
theorem LaneInv.look_fresh (h : LaneInv attempts Made look l) {seqId : UInt16}
    (hfresh : seqId ∉ l.calls.map DrawnCall.seqId) : look seqId = none := by
  cases hlook : look seqId with
  | none => rfl
  | some o =>
    obtain ⟨-, hcall, -, -⟩ := h.call seqId o hlook
    exact absurd (List.mem_map_of_mem hcall) hfresh

/-- Nothing is under way under such a number: everything in the channel is of a call or an ACK. -/
theorem LaneInv.ranksUnder_fresh (h : LaneInv attempts Made look l) {seqId : UInt16}
    (hnone : look seqId = none) : ranksUnder seqId l.channel = [] := by
  apply ranksUnder_eq_nil
  intro x hx htype hseq
  cases h.channel x hx with
  | ack a =>
    rw [bleFrameTypeOf_ack] at htype
    cases htype
  | frame hframe =>
    obtain ⟨o, i, hlook, -, rfl⟩ := hframe
    rw [AlfieBleServiceProtoDataFrame.ofBytes_toBytes] at hseq
    rw [show o.seqId = seqId from hseq, hnone] at hlook
    cases hlook

/-- Nothing has been delivered under it, since a delivery is that of a call. -/
theorem LaneInv.times_fresh (h : LaneInv attempts Made look l) {seqId : UInt16}
    (hnone : look seqId = none) : l.times seqId = 0 := by
  apply List.count_eq_zero.mpr
  intro hmem
  obtain ⟨x, hx, hseq⟩ := List.mem_map.mp hmem
  obtain ⟨o, hlook, -⟩ := h.tally x hx
  rw [hseq, hnone] at hlook
  cases hlook

/-- A transfer begins under a `seq_id` that no call has drawn before, so its counts start from
nothing. -/
theorem LaneInv.startTransfer (h : LaneInv attempts Made look l) {o : Outgoing} (hmade : Made o)
    (hfresh : o.seqId ∉ l.calls.map DrawnCall.seqId) (base timeoutMs : ℕ) :
    LaneInv attempts Made (Function.update look o.seqId (some o))
      ({ l with
        writer := some (⟨o.seqId, o.data, base⟩, transfer attempts timeoutMs o.frames)
        calls := l.calls ++ [⟨o.seqId, o.data, o.count⟩] } : Lane ε) := by
  have hnone := h.look_fresh hfresh
  have hself : Function.update look o.seqId (some o) o.seqId = some o := Function.update_self ..
  have hother : ∀ {id : UInt16}, id ≠ o.seqId →
      Function.update look o.seqId (some o) id = look id :=
    fun hne => Function.update_of_ne hne ..
  -- a number that was looked up belongs to the call that has drawn it before
  have hold : ∀ {id : UInt16} {o' : Outgoing}, look id = some o' →
      Function.update look o.seqId (some o) id = some o' := by
    intro id o' ho'
    rw [hother, ho']
    rintro rfl
    rw [hnone] at ho'
    cases ho'
  -- the new call is looked up under its own number, and every other one as before
  refine ⟨?_, ?_, ?_, ?_, ?_, ?_⟩
  · intro id o' ho'
    by_cases hid : id = o.seqId
    · subst hid
      obtain rfl := Option.some.inj (hself.symm.trans ho')
      exact ⟨rfl, List.mem_append_right _ (List.mem_singleton.mpr rfl), hmade, h.fresh _ hnone⟩
    · rw [hother hid] at ho'
      obtain ⟨hseq, hcall, hrest⟩ := h.call id o' ho'
      exact ⟨hseq, List.mem_append_left _ hcall, hrest⟩
  · intro o' ho'
    apply h.fresh o'
    by_cases hid : o'.seqId = o.seqId
    · rw [hid, hself] at ho'
      cases ho'
    · rwa [hother hid] at ho'
  · intro x hx
    cases h.channel x hx with
    | ack a => exact .ack a
    | frame hframe =>
      obtain ⟨o', i, hlook, hi, hbytes⟩ := hframe
      exact .frame ⟨o', i, hold hlook, hi, hbytes⟩
  · intro call q hq
    obtain ⟨rfl, rfl⟩ := Prod.mk.inj (Option.some.inj hq)
    exact transfer_sendsOnly fun x hx => ⟨o, hself, hx⟩
  · intro id o' ho'
    by_cases hid : id = o.seqId
    · subst hid
      obtain rfl := Option.some.inj (hself.symm.trans ho')
      -- four copies of every frame at most
      refine ⟨0, o.count * attempts, ?_, fun call q hq _ => ?_⟩
      · show Repeats _ _ (ranksUnder o.seqId l.channel) _ _ (l.times o.seqId) _
        rw [h.ranksUnder_fresh hnone, h.times_fresh hnone]
        exact .start fun hcount => by rw [hcount, Nat.one_mul]
      · -- the transfer sends its fragments in ascending order, each at most `attempts` times
        obtain ⟨-, rfl⟩ := Prod.mk.inj (Option.some.inj hq)
        refine ⟨transfer_ascends _ _ o.frames_sorted fun _ _ => Nat.zero_le _, ?_⟩
        rw [← o.length_frames]
        exact transfer_within_sendPrices _ _ _
    · rw [hother hid] at ho'
      obtain ⟨low, budget, hrepeats, -⟩ := h.repeats id o' ho'
      refine ⟨low, budget, hrepeats, fun call q hq hseq => ?_⟩
      obtain ⟨rfl, -⟩ := Prod.mk.inj (Option.some.inj hq)
      exact absurd hseq.symm hid
  · intro x hx
    obtain ⟨o', hlook, htold⟩ := h.tally x hx
    exact ⟨o', hold hlook, htold⟩

/-- **A call begins** with a `seq_id` that none has drawn before: it is refused, or a transfer. -/
theorem LaneInv.start (h : LaneInv attempts Made look l) (call : DrawnCall)
    (hfresh : call.seqId ∉ l.calls.map DrawnCall.seqId) (base : ℕ)
    {p : Proc ε (List UInt8) (Status ε)} (timeoutMs : ℕ)
    (hp : (∃ e, p = .ret (.err e)) ∨ ∃ o : Outgoing, call = ⟨o.seqId, o.data, o.count⟩ ∧ Made o ∧
      p = transfer attempts timeoutMs o.frames) :
    ∃ look', LaneInv attempts Made look'
      { l with
        writer := some (⟨call.seqId, call.data, base⟩, p)
        calls := l.calls ++ [call] } := by
  rcases hp with ⟨e, rfl⟩ | ⟨o, rfl, hmade, rfl⟩
  · exact ⟨look, (h.refuse _ _).mono rfl (List.subset_append_left _ _) rfl (List.Sublist.refl _)
      (fun _ => id) fun _ => id⟩
  · exact ⟨_, h.startTransfer hmade hfresh base timeoutMs⟩

/-- **What the invariant is for.** Every message delivered is that of a call, and is delivered at
most once, or with every copy if it has a single fragment. -/
theorem LaneInv.count_le (h : LaneInv attempts Made look l) {x : UInt16 × List UInt8}
    (hx : x ∈ l.tally) : ∃ call ∈ l.calls, call.seqId = x.1 ∧ call.data = x.2 ∧
      l.tally.count x ≤ if call.fragTotal = 1 then attempts else 1 := by
  obtain ⟨o, hlook, hdata, -⟩ := h.tally x hx
  obtain ⟨-, hcall, -, -⟩ := h.call x.1 o hlook
  obtain ⟨low, budget, hrepeats, -⟩ := h.repeats x.1 o hlook
  refine ⟨_, hcall, rfl, hdata, ?_⟩
  -- what is delivered twice is delivered twice under its number
  calc l.tally.count x
      ≤ l.times x.1 := List.count_le_count_map
    _ ≤ if o.count = 1 then attempts else 1 := hrepeats.done_le o.count_pos

/-- A delivered message that is longer than a fragment can be is delivered at most once for every
call that sends it. The receiver need not know the size of the fragments, so the bound is stated
with the length of the message. -/
theorem LaneInv.count_le_of_length (h : LaneInv attempts Made look l) (hattempts : 0 < attempts)
    {limit : ℕ} (hmade : ∀ o, Made o → o.size ≤ limit) (x : UInt16 × List UInt8) :
    l.tally.count x ≤ (if limit < x.2.length then 1 else attempts) *
      (l.calls.map fun call => (call.seqId, call.data)).count x := by
  by_cases hx : x ∈ l.tally
  · obtain ⟨o, hlook, hdata, hsize⟩ := h.tally x hx
    obtain ⟨-, hcall, ho, -⟩ := h.call x.1 o hlook
    obtain ⟨low, budget, hrepeats, -⟩ := h.repeats x.1 o hlook
    have hmem : 0 < (l.calls.map fun call => (call.seqId, call.data)).count x := by
      rw [List.count_pos_iff]
      exact List.mem_map.mpr ⟨_, hcall, Prod.ext rfl hdata⟩
    have htimes : l.tally.count x ≤ if o.count = 1 then attempts else 1 :=
      List.count_le_count_map.trans (hrepeats.done_le o.count_pos)
    have hcopies : (if o.count = 1 then attempts else 1) ≤
        if limit < x.2.length then 1 else attempts := by
      split
      · -- a single fragment is no longer than `limit`
        next hone =>
        have hlength := o.length_le_size hsize hone
        rw [if_neg (not_lt.mpr (hdata ▸ hlength.trans (hmade o ho)))]
      · split
        · exact le_rfl
        · exact hattempts
    exact htimes.trans (hcopies.trans (Nat.le_mul_of_pos_right _ hmem))
  · rw [List.count_eq_zero_of_not_mem hx]
    exact Nat.zero_le _

end Rules

end DectCommunicator

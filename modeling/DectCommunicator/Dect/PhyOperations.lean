import Mathlib.Data.List.Induction
import DectCommunicator.Dect.LinkLayerRx

/-!
# What a PHY operation reports

The five operations on the PHY share one semaphore and three flags. An operation calls the driver;
when the driver accepts, it takes the semaphore and reads the outcome from the flags, where the
handler of its completion event has put it. A handler writes the flags only when its event has an
error, so an operation finds its own outcome in them only if they were clear when it began.

`prv_init_phy`, `prv_config_phy`, `prv_phy_activate` and `prv_dect_receive` clear them first.
`prv_link_layer_write_frame` does not: a transmission that succeeds reports the failure that an
earlier operation has left (`reports_own_iff`). In the link-layer thread, where every transmission
follows a reception or the activation, that is the failure of the operation just before
(`prvLinkLayerThread_operates`, `leavesFailure_reset`).
-/

namespace DectCommunicator

open Machine

/-! ### The operations -/

/-- The flags cleared, as an operation clears them before it calls the driver. The semaphore is not
among them. -/
def DectLinkLayer.resetFlags (st : DectLinkLayer) : DectLinkLayer :=
  { st with opReturnCode := 0, opCancelled := false, opFailed := false }

/-- The rest of an operation, from the call of the driver. A call that is refused returns at once
and takes no semaphore. -/
def DectLinkLayer.callDriver (deviceId : UInt32) (st : DectLinkLayer) (driver : Ret)
    (events : List PhyEvent) : Ret × DectLinkLayer :=
  let st := handleEvents deviceId st events
  match driver with
  | .err e => (.err e, st)
  | .ok => st.awaitOp

/-- `prv_init_phy`. `driver` is the result of `nrf_modem_dect_phy_init`. -/
def prvInitPhy (deviceId : UInt32) (st : DectLinkLayer) (driver : Ret) (events : List PhyEvent) :
    Ret × DectLinkLayer :=
  st.resetFlags.callDriver deviceId driver events

/-- `prv_config_phy`. `driver` is the result of `nrf_modem_dect_phy_configure`. -/
def prvConfigPhy (deviceId : UInt32) (st : DectLinkLayer) (driver : Ret) (events : List PhyEvent) :
    Ret × DectLinkLayer :=
  st.resetFlags.callDriver deviceId driver events

/-- `prv_phy_activate`. `driver` is the result of `nrf_modem_dect_phy_activate`. -/
def prvPhyActivate (deviceId : UInt32) (st : DectLinkLayer) (driver : Ret)
    (events : List PhyEvent) : Ret × DectLinkLayer :=
  st.resetFlags.callDriver deviceId driver events

/-- The operations on the PHY, of which the thread uses the last two. -/
inductive PhyOp where
  | init
  | configure
  | activate
  | receive
  | transmit
deriving DecidableEq, Repr

/-- The event that completes an operation, with the error code it carries. A reception and a
transmission have the same one. -/
def PhyOp.completion : PhyOp → Int → PhyEvent
  | .init => .init
  | .configure => .configure
  | .activate => .activate
  | .receive => .completed
  | .transmit => .completed

/-- An operation with what it meets: the driver's result, the error code of its completion event
(of no meaning when the driver refuses) and all the events that reach the handler meanwhile. -/
structure PhyOperation where
  op : PhyOp
  driver : Ret
  err : Int
  events : List PhyEvent
deriving DecidableEq, Repr

/-- Call the function of the operation in the state `st`. -/
def PhyOperation.perform (deviceId : UInt32) (st : DectLinkLayer) (x : PhyOperation) :
    Ret × DectLinkLayer :=
  match x.op with
  | .init => prvInitPhy deviceId st x.driver x.events
  | .configure => prvConfigPhy deviceId st x.driver x.events
  | .activate => prvPhyActivate deviceId st x.driver x.events
  | .receive => prvDectReceive deviceId st x.driver x.events
  | .transmit => prvLinkLayerWriteFrame deviceId st x.driver x.events

/-- The operations as a machine that emits their return codes, each operation starting from the
state that the one before has left. -/
def operate (deviceId : UInt32) (st : DectLinkLayer) (x : PhyOperation) :
    DectLinkLayer × List Ret :=
  ((x.perform deviceId st).2, [(x.perform deviceId st).1])

/-- The instance when `dect_link_layer_init` begins its operations: zeroed memory and an empty
semaphore. -/
def DectLinkLayer.zeroed : DectLinkLayer where
  initialized := false
  opFailed := false
  opCancelled := false
  opReturnCode := 0
  validRxData := false
  rxFrame := List.replicate dectLinkLayerMtuSizeBytes 0
  rxFrameSizeBytes := 0
  opSem := 0
  rxCallback := false

/-! ### Completion events -/

/-- The error code of a completion event, 0 for success; other events have none. -/
def PhyEvent.completionErr : PhyEvent → Option Int
  | .init err => some err
  | .configure err => some err
  | .completed err => some err
  | .activate err => some err
  | .pdc _ => none
  | .other => none

/-- The event completes an operation, of whichever kind. -/
def PhyEvent.isCompletion (ev : PhyEvent) : Bool := ev.completionErr.isSome

/-- An accepted operation is completed once, by its own event and before the next one starts; a
refused one is not completed. -/
def PhyOperation.Completes (x : PhyOperation) : Prop :=
  x.events.filter PhyEvent.isCompletion
    = if x.driver = .ok then [x.op.completion x.err] else []

instance (x : PhyOperation) : Decidable x.Completes := inferInstanceAs (Decidable (_ = _))

/-- The operation itself succeeded: the driver took it, and its completion event has no error. -/
def PhyOperation.Succeeds (x : PhyOperation) : Prop := x.driver = .ok ∧ x.err = 0

/-- The operation was accepted and its completion event has an error. These are the failures that
leave something in the flags. -/
def PhyOperation.FailsLate (x : PhyOperation) : Prop := x.driver = .ok ∧ x.err ≠ 0

/-- **An operation reports its own outcome** by the return code `r`. -/
structure PhyOperation.ReportsOwn (x : PhyOperation) (r : Ret) : Prop where
  /-- When the driver call failed it is the driver's code. -/
  refused : ∀ e, x.driver = .err e → r = .err e
  /-- Otherwise it is the code of the completion event. -/
  accepted : x.driver = .ok → r = Ret.ofInt x.err
  /-- It is 0 exactly on success. -/
  success : r = .ok ↔ x.Succeeds

/-- Some operation failed late, and only transmissions came after it. -/
def LeavesFailure (before : List PhyOperation) : Prop :=
  ∃ pre y post, before = pre ++ y :: post ∧ y.FailsLate ∧ ∀ z ∈ post, z.op = .transmit

/-- The completion event of an operation carries its error code. -/
theorem PhyOp.isCompletion_completion (op : PhyOp) (err : Int) :
    (op.completion err).completionErr = some err := by
  cases op <;> rfl

/-- The error codes of the completion events of an operation: its own, or none when it was
refused. -/
theorem PhyOperation.Completes.filterMap_completionErr {x : PhyOperation} (h : x.Completes) :
    x.events.filterMap PhyEvent.completionErr = if x.driver = .ok then [x.err] else [] := by
  have hfilter : x.events.filterMap PhyEvent.completionErr
      = (x.events.filter PhyEvent.isCompletion).filterMap PhyEvent.completionErr := by
    rw [List.filterMap_filter]
    refine List.filterMap_congr fun ev _ => ?_
    unfold PhyEvent.isCompletion
    cases ev.completionErr <;> rfl
  rw [hfilter, h]
  split
  · rw [List.filterMap_cons_some (x.op.isCompletion_completion x.err), List.filterMap_nil]
  · rfl

/-- The code 0 is success, and no other is. -/
theorem Ret.ofInt_eq_ok {code : Int} : Ret.ofInt code = .ok ↔ code = 0 := by
  unfold Ret.ofInt
  split
  · next h => exact ⟨fun _ => h, fun _ => rfl⟩
  · next h => exact ⟨nofun, fun hzero => absurd hzero h⟩

/-! ### The flags -/

/-- The flags that the operations share, and the semaphore, apart from everything else of the
instance. -/
structure OpFlags where
  failed : Bool
  cancelled : Bool
  returnCode : Int
  sem : ℕ
deriving DecidableEq, Repr

/-- The flags of an instance. What an operation reports depends on these alone. -/
def DectLinkLayer.flags (st : DectLinkLayer) : OpFlags :=
  ⟨st.opFailed, st.opCancelled, st.opReturnCode, st.opSem⟩

/-- What a completion event does to the flags: without an error it gives the semaphore and resets
nothing. -/
def OpFlags.complete (f : OpFlags) (err : Int) : OpFlags :=
  if err ≠ 0 then { f with failed := true, returnCode := err, sem := min (f.sem + 1) 1 }
  else { f with sem := min (f.sem + 1) 1 }

/-- Taking the semaphore, which the completion event has given. -/
def OpFlags.take (f : OpFlags) : OpFlags := { f with sem := f.sem - 1 }

/-- What an operation that has taken the semaphore reads from the flags. -/
def OpFlags.outcome (f : OpFlags) : Ret :=
  if f.cancelled then .err .ecanceled else if f.failed then Ret.ofInt f.returnCode else .ok

/-- A handler does to the flags what `OpFlags.complete` says. -/
theorem flags_onCompletion (st : DectLinkLayer) (err : Int) :
    (st.onCompletion err).flags = st.flags.complete err := by
  unfold DectLinkLayer.onCompletion OpFlags.complete
  split <;> rfl

/-- The semaphore counts one completion, which the operation takes back. -/
theorem OpFlags.sem_take_complete (f : OpFlags) (err : Int) : (f.complete err).take.sem = 0 := by
  unfold OpFlags.complete
  split <;> exact Nat.sub_eq_zero_of_le (Nat.min_le_right _ _)

/-- Only completion events change the flags, and of these only the error codes matter. -/
theorem handleEvents_flags (deviceId : UInt32) (st : DectLinkLayer) (events : List PhyEvent) :
    (handleEvents deviceId st events).flags
      = (events.filterMap PhyEvent.completionErr).foldl OpFlags.complete st.flags := by
  unfold handleEvents
  induction events generalizing st with
  | nil => rfl
  | cons ev events ih =>
    rw [List.foldl_cons, ih]
    cases ev with
    | pdc data =>
      -- a received frame changes what the thread reads, not the flags
      have hflags : (prvOnPhyPdcEvent deviceId st data).flags = st.flags := by
        unfold prvOnPhyPdcEvent
        split <;> rfl
      rw [List.filterMap_cons_none rfl]
      exact congrArg (List.foldl OpFlags.complete · _) hflags
    | other => rw [List.filterMap_cons_none rfl]; rfl
    | init err | configure err | completed err | activate err =>
      exact congrArg (List.foldl OpFlags.complete · _) (flags_onCompletion st err)

/-- Taking the semaphore reads the outcome from the flags and leaves them as they are. -/
theorem awaitOp_eq (st : DectLinkLayer) :
    st.awaitOp = (st.flags.outcome, { st with opSem := st.opSem - 1 }) := by
  unfold DectLinkLayer.awaitOp OpFlags.outcome
  -- the order of the tests in the source
  by_cases hcancelled : st.opCancelled = true
  · exact (if_pos hcancelled).trans (congrArg (·, _) (if_pos hcancelled).symm)
  · refine (if_neg hcancelled).trans ((?_ : _ = _).trans (congrArg (·, _) (if_neg hcancelled).symm))
    by_cases hfailed : st.opFailed = true
    · exact (if_pos hfailed).trans (congrArg (·, _) (if_pos hfailed).symm)
    · exact (if_neg hfailed).trans (congrArg (·, _) (if_neg hfailed).symm)

/-- The flags before the driver call of an operation. The transmission is the one that does not
clear them. -/
def OpFlags.atCall (f : OpFlags) : PhyOp → OpFlags
  | .transmit => f
  | _ => { f with failed := false, cancelled := false, returnCode := 0 }

/-- **What an operation does to the flags, and what it reports.** A refused one leaves the flags it
called the driver with; an accepted one reports what its completion event leaves. -/
theorem PhyOperation.Completes.perform_flags {x : PhyOperation} (h : x.Completes)
    (deviceId : UInt32) (st : DectLinkLayer) :
    match x.driver with
    | .err e => (x.perform deviceId st).1 = .err e ∧
        (x.perform deviceId st).2.flags = st.flags.atCall x.op
    | .ok => (x.perform deviceId st).1 = ((st.flags.atCall x.op).complete x.err).outcome ∧
        (x.perform deviceId st).2.flags = ((st.flags.atCall x.op).complete x.err).take := by
  -- every operation is a driver call from the flags at the call
  have hcall : ∃ st' : DectLinkLayer, st'.flags = st.flags.atCall x.op ∧
      x.perform deviceId st = st'.callDriver deviceId x.driver x.events := by
    unfold PhyOperation.perform
    cases x.op with
    | init | configure | activate => exact ⟨st.resetFlags, rfl, rfl⟩
    | receive => exact ⟨{ st.resetFlags with validRxData := false }, rfl, rfl⟩
    | transmit => exact ⟨st, rfl, rfl⟩
  obtain ⟨st', hst', hperform⟩ := hcall
  have hevents := handleEvents_flags deviceId st' x.events
  rw [h.filterMap_completionErr, hst'] at hevents
  rw [hperform]
  unfold DectLinkLayer.callDriver
  cases hd : x.driver with
  | err e =>
    rw [hd, if_neg nofun] at hevents
    exact ⟨rfl, hevents⟩
  | ok =>
    rw [hd, if_pos rfl] at hevents
    dsimp only
    rw [awaitOp_eq, hevents]
    exact ⟨rfl, congrArg OpFlags.take hevents⟩

/-! ### A failure that is left over -/

/-- A failure is left by the last operation itself, or lies before a transmission, which does not
clear it. -/
theorem leavesFailure_snoc (before : List PhyOperation) (x : PhyOperation) :
    LeavesFailure (before ++ [x]) ↔ x.FailsLate ∨ (x.op = .transmit ∧ LeavesFailure before) := by
  constructor
  · rintro ⟨pre, y, post, heq, hy, hpost⟩
    -- Either the failing operation is the last one, or a transmission is.
    rcases List.eq_nil_or_concat' post with rfl | ⟨post, z, rfl⟩
    · obtain ⟨-, hxy⟩ := List.append_inj' heq rfl
      obtain rfl := (List.cons.inj hxy).1
      exact Or.inl hy
    · rw [← List.cons_append, ← List.append_assoc] at heq
      obtain ⟨hbefore, hxz⟩ := List.append_inj' heq rfl
      obtain rfl := (List.cons.inj hxz).1
      exact Or.inr ⟨hpost x (List.mem_append_right _ List.mem_cons_self), pre, y, post, hbefore, hy,
        fun w hw => hpost w (List.mem_append_left _ hw)⟩
  · rintro (hx | ⟨hx, pre, y, post, rfl, hy, hpost⟩)
    · exact ⟨before, x, [], rfl, hx, fun z hz => absurd hz List.not_mem_nil⟩
    · refine ⟨pre, y, post ++ [x], by rw [List.append_assoc, List.cons_append], hy,
        fun z hz => ?_⟩
      rcases List.mem_append.mp hz with hz | hz
      · exact hpost z hz
      · obtain rfl := List.mem_singleton.mp hz
        exact hx

/-- The flags between two operations: they show a failure exactly when one is left over. Nothing
ever sets `op_cancelled`. -/
structure OpFlags.After (f : OpFlags) (before : List PhyOperation) : Prop where
  cancelled : f.cancelled = false
  failed : f.failed = true ↔ LeavesFailure before
  returnCode : f.failed = true → f.returnCode ≠ 0
  sem : f.sem = 0

/-- At the driver call the flags show a failure only to a transmission, the others having cleared
it. -/
theorem OpFlags.After.atCall {f : OpFlags} {before : List PhyOperation} (h : f.After before)
    (op : PhyOp) :
    (f.atCall op).cancelled = false ∧ (f.atCall op).sem = 0 ∧
      ((f.atCall op).failed = true ↔ op = .transmit ∧ LeavesFailure before) ∧
      ((f.atCall op).failed = true → (f.atCall op).returnCode ≠ 0) := by
  cases op with
  | transmit =>
    exact ⟨h.cancelled, h.sem, h.failed.trans ⟨fun hleft => ⟨rfl, hleft⟩, And.right⟩,
      h.returnCode⟩
  | _ => exact ⟨rfl, h.sem, ⟨nofun, nofun⟩, nofun⟩

/-- **The step.** One more operation leaves the flags as the longer history says. -/
theorem OpFlags.After.step {st : DectLinkLayer} {before : List PhyOperation}
    (h : st.flags.After before) {x : PhyOperation} (hx : x.Completes) (deviceId : UInt32) :
    (x.perform deviceId st).2.flags.After (before ++ [x]) := by
  obtain ⟨hcancelled, hsem, hfailed, hcode⟩ := h.atCall x.op
  have hspec := hx.perform_flags deviceId st
  cases hd : x.driver with
  | err e =>
    -- refused: the flags stay as they were at the call
    rw [hd] at hspec
    have hlate : ¬ x.FailsLate := fun hlate => by cases hd.symm.trans hlate.1
    rw [hspec.2]
    exact ⟨hcancelled, hfailed.trans
      ((leavesFailure_snoc before x).trans (or_iff_right hlate)).symm, hcode, hsem⟩
  | ok =>
    rw [hd] at hspec
    have hempty := (st.flags.atCall x.op).sem_take_complete x.err
    rw [hspec.2]
    unfold OpFlags.complete at hempty ⊢
    split
    · next herr =>
      -- the completion event sets them
      rw [if_pos herr] at hempty
      exact ⟨hcancelled, iff_of_true rfl ((leavesFailure_snoc before x).mpr (Or.inl ⟨hd, herr⟩)),
        fun _ => herr, hempty⟩
    · next herr =>
      -- or gives the semaphore only
      rw [if_neg herr] at hempty
      have hlate : ¬ x.FailsLate := fun hlate => herr hlate.2
      exact ⟨hcancelled, hfailed.trans
        ((leavesFailure_snoc before x).trans (or_iff_right hlate)).symm, hcode,
        hempty⟩

/-- **The run.** The induction is on the history from its end, as the next operation comes last. -/
theorem OpFlags.After.run (deviceId : UInt32) {before : List PhyOperation}
    (hbefore : ∀ y ∈ before, y.Completes) :
    (runs (operate deviceId) .zeroed before).flags.After before := by
  induction before using List.reverseRecOn with
  | nil =>
    have hnone : ¬ LeavesFailure [] := fun ⟨pre, y, post, heq, _⟩ =>
      List.append_ne_nil_of_right_ne_nil pre (List.cons_ne_nil y post) heq.symm
    exact ⟨rfl, iff_of_false nofun hnone, nofun, rfl⟩
  | append_singleton before x ih =>
    have hrun := (ih fun y hy => hbefore y (List.mem_append_left _ hy)).step
      (hbefore x (List.mem_append_right _ List.mem_cons_self)) deviceId
    unfold runs at hrun ⊢
    rwa [List.foldl_append, List.foldl_cons, List.foldl_nil]

/-! ### The outcome reported -/

/-- The outcome of the operation by itself, without a look at the flags. -/
def PhyOperation.outcome (x : PhyOperation) : Ret :=
  match x.driver with
  | .err e => .err e
  | .ok => Ret.ofInt x.err

/-- To report its own outcome is to return that outcome. -/
theorem PhyOperation.reportsOwn_iff {x : PhyOperation} {r : Ret} :
    x.ReportsOwn r ↔ r = x.outcome := by
  unfold PhyOperation.outcome
  constructor
  · -- to report its own outcome determines the result, in each of the two cases
    intro h
    cases hd : x.driver with
    -- refused by the driver: the result is its error, and nothing is said about events
    | err e => exact h.refused e hd
    | ok => exact h.accepted hd
  · intro h
    cases hd : x.driver with
    | err e =>
      rw [hd] at h
      refine ⟨fun e' he' => ?_, fun hok => (by cases hd.symm.trans hok), ?_⟩
      · obtain rfl := StopAndWait.Status.err.inj (hd.symm.trans he')
        exact h
      · rw [h]
        exact iff_of_false nofun fun hs => by cases hd.symm.trans hs.1
    | ok =>
      rw [hd] at h
      refine ⟨fun e he => (by cases hd.symm.trans he), fun _ => h, ?_⟩
      rw [h]
      exact Ret.ofInt_eq_ok.trans ⟨fun herr => ⟨hd, herr⟩, And.right⟩

/-- A transmission that succeeds after a failure that is left over: it takes the semaphore of its
own completion and reads the flags of an earlier one. -/
def PhyOperation.Inherits (x : PhyOperation) (before : List PhyOperation) : Prop :=
  x.op = .transmit ∧ x.Succeeds ∧ LeavesFailure before

/-- **An operation reports its own outcome unless it inherits one**, after every sequence of
operations. -/
theorem reports_own_iff (deviceId : UInt32) (before : List PhyOperation) (x : PhyOperation)
    (hbefore : ∀ y ∈ before, y.Completes) (hx : x.Completes) :
    x.ReportsOwn (x.perform deviceId (runs (operate deviceId) .zeroed before)).1 ↔
      ¬ x.Inherits before := by
  obtain ⟨hcancelled, -, hfailed, hcode⟩ := (OpFlags.After.run deviceId hbefore).atCall x.op
  have hspec := hx.perform_flags deviceId (runs (operate deviceId) .zeroed before)
  rw [PhyOperation.reportsOwn_iff]
  unfold PhyOperation.outcome PhyOperation.Inherits PhyOperation.Succeeds
  cases hd : x.driver with
  | err e =>
    rw [hd] at hspec
    exact iff_of_true hspec.1 fun h => by cases h.2.1.1
  | ok =>
    rw [hd] at hspec
    rw [hspec.1]
    unfold OpFlags.complete
    by_cases herr : x.err = 0
    · -- the flags still show what they showed at the call
      rw [if_neg (not_not_intro herr), herr]
      unfold OpFlags.outcome
      rw [if_neg (Bool.eq_false_iff.mp hcancelled)]
      by_cases hinherits : x.op = .transmit ∧ LeavesFailure before
      · have hset := hfailed.mpr hinherits
        rw [if_pos hset, Ret.ofInt_eq_ok.mpr rfl, Ret.ofInt_eq_ok]
        exact iff_of_false (hcode hset) fun h => h ⟨hinherits.1, ⟨rfl, rfl⟩, hinherits.2⟩
      · rw [if_neg fun hset => hinherits (hfailed.mp hset)]
        exact iff_of_true rfl fun h => hinherits ⟨h.1, h.2.2⟩
    · -- the completion event overwrites them
      rw [if_pos herr]
      unfold OpFlags.outcome
      rw [if_neg (Bool.eq_false_iff.mp hcancelled), if_pos rfl]
      exact iff_of_true rfl fun h => herr h.2.1.2

/-- The second of two receptions succeeds after the first has failed, and says so: a reception
clears the flags. -/
theorem reports_own_iff_receive :
    (⟨.receive, .ok, 0, [.pdc [], .completed 0]⟩ : PhyOperation).ReportsOwn
        ((⟨.receive, .ok, 0, [.pdc [], .completed 0]⟩ : PhyOperation).perform 1
          (runs (operate 1) .zeroed [⟨.receive, .ok, 5, [.completed 5]⟩])).1 ↔
      ¬ (⟨.receive, .ok, 0, [.pdc [], .completed 0]⟩ : PhyOperation).Inherits
        [⟨.receive, .ok, 5, [.completed 5]⟩] :=
  reports_own_iff 1 [⟨.receive, .ok, 5, [.completed 5]⟩]
    ⟨.receive, .ok, 0, [.pdc [], .completed 0]⟩ (by decide) (by decide)

/-- Initialisation, a receive window that ends with error 5, and a transmission that succeeds: it
returns 5. -/
theorem transmit_reports_reception :
    ∃ (before : List PhyOperation) (x : PhyOperation),
      (∀ y ∈ before, y.Completes) ∧ x.Completes ∧ x.Succeeds ∧
        (x.perform 1 (runs (operate 1) .zeroed before)).1 = .err (.driver 5) ∧
        ¬ x.ReportsOwn (x.perform 1 (runs (operate 1) .zeroed before)).1 := by
  refine ⟨[⟨.init, .ok, 0, [.init 0]⟩, ⟨.configure, .ok, 0, [.configure 0]⟩,
    ⟨.activate, .ok, 0, [.activate 0]⟩, ⟨.receive, .ok, 5, [.completed 5]⟩],
    ⟨.transmit, .ok, 0, [.completed 0]⟩, by decide, by decide, ⟨rfl, rfl⟩, by decide, fun h => ?_⟩
  exact absurd (h.accepted rfl) (by decide)

/-! ### The operations of the thread -/

/-- The operations of an iteration of the thread, with the error codes of their completion events.
Without a queued frame there is no transmission. -/
def Iteration.operations (it : Iteration) (txErr rxErr : Int) : List PhyOperation :=
  let transmit : PhyOperation := ⟨.transmit, it.txDriver, txErr, it.txEvents⟩
  let receive : PhyOperation := ⟨.receive, it.rxDriver, rxErr, it.rxEvents⟩
  if it.queued then [transmit, receive] else [receive]

/-- An iteration of the thread performs its operations, and the rx callback changes nothing of the
instance. -/
theorem prvLinkLayerThread_operates (deviceId : UInt32) (st : DectLinkLayer) (it : Iteration)
    (txErr rxErr : Int) (hidle : it.queued = false → it.txEvents = []) :
    (prvLinkLayerThread deviceId st it).1
      = runs (operate deviceId) st (it.operations txErr rxErr) := by
  have hwindow : ∀ st', (receiveWindow deviceId st' it.rxDriver it.rxEvents it.beyond).1
      = (prvDectReceive deviceId st' it.rxDriver it.rxEvents).2 := by
    intro st'
    unfold receiveWindow
    dsimp only
    split
    · rfl
    · split <;> rfl
  unfold prvLinkLayerThread Iteration.operations
  dsimp only
  rw [hwindow]
  cases hq : it.queued with
  | true => rfl
  | false => rw [hidle hq]; rfl

/-- After an operation that clears the flags the failure left over can only be its own. In the
thread a reception comes before every transmission but the first. -/
theorem leavesFailure_reset (before : List PhyOperation) {x : PhyOperation}
    (hx : x.op ≠ .transmit) : LeavesFailure (before ++ [x]) ↔ x.FailsLate := by
  rw [leavesFailure_snoc]
  exact or_iff_left fun h => hx h.1

end DectCommunicator

import DectCommunicator.Ble.AlfieServiceSpec

/-!
# Advertising and connections

`ble_core.c`, the start of the Alfie BLE service, and what both do when a client connects or is
gone.

Of the host it is assumed that connectable advertising ends when a client connects, and that the
`connected` and `disconnected` callbacks of both modules are called; `bt_le_adv_start` returns
anything. What a device advertises is its name, which ends in the digits of its id and is never cut
off (`prvDeviceName_eq`), and the UUID of the service.

In every run the device is advertising, connected or about to advertise, and the service holds the
one reference to the one connection. A single failure ends this for good, since only `main` and the
end of a connection start the advertising: that it cannot be started, or that it ends without a
connection (`visible_until_failure`).
-/

namespace DectCommunicator

open Machine StopAndWait

/-! ### The name -/

/-- A digit of `%x`, which prints the letters in lower case. -/
def hexDigit (n : ℕ) : UInt8 := if n < 10 then UInt8.ofNat (0x30 + n) else UInt8.ofNat (0x57 + n)

/-- `%08x`: the eight digits of the id, the highest first, padded with zeros. -/
def hex08 (id : UInt32) : List UInt8 :=
  (List.range 8).map fun i => hexDigit (id.toNat / 16 ^ (7 - i) % 16)

/-- `"Alfie-"`, the fixed part of the name, in ASCII. -/
def deviceNamePrefix : List UInt8 := [0x41, 0x6c, 0x66, 0x69, 0x65, 0x2d]

/-- `sizeof(prv_device_name)`, which `snprintf` is told. -/
def deviceNameSizeBytes : ℕ := 16

/-- What `snprintf` has written to `prv_device_name`, without the NUL, and the length it returns.
That is the length it would have needed, which `ble_core_init` uses as `data_len`. -/
def prvDeviceName (id : UInt32) : List UInt8 × ℕ :=
  ((deviceNamePrefix ++ hex08 id).take (deviceNameSizeBytes - 1),
    (deviceNamePrefix ++ hex08 id).length)

/-- The name is not cut off: the six letters, the eight digits and the NUL take 15 of the 16 bytes,
so the returned length is that of what has been written. -/
theorem prvDeviceName_eq (id : UInt32) : prvDeviceName id = (deviceNamePrefix ++ hex08 id, 14) := by
  have hlen : (deviceNamePrefix ++ hex08 id).length = 14 := by
    unfold hex08
    rw [List.length_append, List.length_map, List.length_range]
    rfl
  unfold prvDeviceName
  rw [List.take_of_length_le (hlen.trans_le (by decide)), hlen]

/-! ### What is advertised -/

/-- `struct bt_data`: an element of an advertisement, its bytes being those at the pointer. -/
structure BtData where
  type : UInt8
  data : List UInt8
deriving DecidableEq, Repr

/-- The bytes that an element takes in the payload, with its length and its type. -/
def BtData.size (x : BtData) : ℕ := x.data.length + 2

/-- What a legacy advertisement, or its scan response, has room for; `bt_le_adv_start` refuses
more. -/
def btAdvPayloadMaxBytes : ℕ := 31

/-- `BT_DATA_FLAGS` with `BT_LE_AD_GENERAL | BT_LE_AD_NO_BREDR`. -/
def btDataFlags : BtData := ⟨0x01, [0x06]⟩

/-- `BLE_CORE_MAX_ADV_UUID128`: a scan response has no room for a second UUID of 128 bits. -/
def bleCoreMaxAdvUuid128 : ℕ := 1

/-- `ALFIE_BLE_SERVICE_UUID_VAL`, as `BT_UUID_128_ENCODE` lays it out. -/
def alfieBleServiceUuid : List UInt8 :=
  [0x05, 0x33, 0x51, 0x04, 0xaf, 0xd1, 0x76, 0xa1, 0x32, 0x4e, 0x11, 0x52, 0xa3, 0x4f, 0x53, 0xc1]

/-- The variables of `ble_core.c`: `prv_ad_data[1]`, the UUIDs in `prv_adv_uuid128_buf`, and whether
`adv_work` has its handler. -/
structure BleCore where
  name : BtData
  advUuid128 : List (List UInt8)
  advWork : Bool
deriving DecidableEq, Repr

/-- The variables in zeroed memory. The flags in `prv_ad_data[0]` are a constant of
`advertisement`. -/
def BleCore.zeroed : BleCore := ⟨⟨0, []⟩, [], false⟩

/-- `prv_reset_nrf5340`: whether the GPIO is ready, and what its configuration returns. The rest of
the pulse cannot fail. -/
def prvResetNrf5340 (ready : Bool) (configure : Ret) : Ret :=
  if ready = false then .err .enodev else configure

/-- `ble_core_init`. A reset that fails is only logged; `btEnable` is the result of `bt_enable`.
When that fails the name is already set, but `adv_work` has no handler. -/
def bleCoreInit (deviceId : UInt32) (_reset btEnable : Ret) (c : BleCore) : Ret × BleCore :=
  let name := prvDeviceName deviceId
  let c := { c with name := ⟨0x09, name.1.take name.2⟩ }
  match btEnable with
  | .err e => (.err e, c)
  | .ok => (.ok, { c with advWork := true })

/-- `ble_core_register_adv_uuid128`: the UUIDs are appended until the buffer is full. None is
removed. -/
def bleCoreRegisterAdvUuid128 (uuid : List UInt8) (c : BleCore) : Ret × BleCore :=
  if bleCoreMaxAdvUuid128 ≤ c.advUuid128.length then (.err .enomem, c)
  else (.ok, { c with advUuid128 := c.advUuid128 ++ [uuid] })

/-- The advertisement and the scan response that `prv_advertising_work_handler` passes to
`bt_le_adv_start`. -/
def BleCore.advertisement (c : BleCore) : List BtData × List BtData :=
  ([btDataFlags, c.name],
    if 0 < c.advUuid128.length then [⟨0x07, c.advUuid128.flatten⟩] else [])

/-- A device that is known by its name and by the UUID of the service, as a client looks for it. -/
structure BleCore.Announces (c : BleCore) (deviceId : UInt32) : Prop where
  advWork : c.advWork = true
  name : c.name = ⟨0x09, deviceNamePrefix ++ hex08 deviceId⟩
  uuid : c.advUuid128 = [alfieBleServiceUuid]

/-- The advertisement of a started device tells its id, and fits into the payloads of legacy
advertising. -/
theorem BleCore.Announces.advertisement {c : BleCore} {deviceId : UInt32}
    (h : c.Announces deviceId) :
    c.advertisement =
        ([btDataFlags, ⟨0x09, deviceNamePrefix ++ hex08 deviceId⟩],
          [⟨0x07, alfieBleServiceUuid⟩]) ∧
      (c.advertisement.1.map BtData.size).sum ≤ btAdvPayloadMaxBytes ∧
      (c.advertisement.2.map BtData.size).sum ≤ btAdvPayloadMaxBytes := by
  have heq : c.advertisement =
      ([btDataFlags, ⟨0x09, deviceNamePrefix ++ hex08 deviceId⟩],
        [⟨0x07, alfieBleServiceUuid⟩]) := by
    unfold BleCore.advertisement
    rw [h.name, h.uuid]
    rfl
  rw [heq]
  exact ⟨rfl, (by decide : 3 + (14 + 2) ≤ 31), (by decide : 16 + 2 ≤ 31)⟩

/-! ### The service -/

/-- The private instance of the service in zeroed memory, its pool without a context. -/
def AlfieBleService.zeroed : AlfieBleService where
  initialized := false
  rxPool := ⟨[], [], 0, 0, none⟩
  transportRxCallback := none
  conn := false
  ackSem := 0

/-- `alfie_ble_service_init`. The arguments of `transport_buffer_pool_init` are constants that it
accepts; that the UUID cannot be registered is only logged. -/
def alfieBleServiceInit (st : AlfieBleService) (c : BleCore) : Ret × AlfieBleService × BleCore :=
  if st.initialized then (.err .ealready, st, c)
  else
    (.ok, { AlfieBleService.init st.transportRxCallback with conn := st.conn },
      (bleCoreRegisterAdvUuid128 alfieBleServiceUuid c).2)

/-- `alfie_ble_service_register_rx_callback`: a callback can be replaced, but not taken back. -/
def alfieBleServiceRegisterRxCallback (st : AlfieBleService)
    (callback : Option (TransportRxCallback Unit)) : Ret × AlfieBleService :=
  if st.initialized = false then (.err .enetdown, st)
  else
    match callback with
    | none => (.err .einval, st)
    | some callback => (.ok, { st with transportRxCallback := some callback })

/-! ### The host -/

/-- The host: whether `adv_work` is queued, what is advertised, the connection, the pointer that the
service has to it and the references it holds to the connection objects. The references are those
taken by `bt_conn_ref` and not yet dropped by `bt_conn_unref`. -/
structure BleHost where
  core : BleCore
  queued : Bool
  advertised : Option (List BtData × List BtData)
  connection : Option ℕ
  conn : Option ℕ
  refs : ℕ → ℕ

/-- The host before anything has started: nothing is advertised, and no reference is held. -/
def BleHost.zeroed : BleHost := ⟨.zeroed, false, none, none, none, fun _ => 0⟩

/-- `ble_core_start_advertising`: the work item is submitted, so the advertising starts later and
its failure is not reported here. -/
def bleCoreStartAdvertising (h : BleHost) : Ret × BleHost := (.ok, { h with queued := true })

/-- What can happen: the work item runs; the advertising leads to a connection in the object `c`, or
to an error, with which it may have ended; the connection is gone. The results come from the host,
so they are part of the action. -/
inductive BleHostAction where
  | advWork (start : Ret)
  | connected (c : ℕ) (err : UInt8) (ended : Bool)
  | disconnected (reason : UInt8)
deriving DecidableEq, Repr

/-- `prv_device_connected` of both modules: an error is only logged, and the service takes a
reference to the connection it keeps. -/
def BleHost.onConnected (h : BleHost) (c : ℕ) (err : UInt8) : BleHost :=
  if err ≠ 0 then h
  else { h with conn := some c, refs := Function.update h.refs c (h.refs c + 1) }

/-- `prv_device_disconnected` of both modules: the service drops its reference and the core submits
the work item again. -/
def BleHost.onDisconnected (h : BleHost) (c : ℕ) : BleHost :=
  { h with conn := none, refs := Function.update h.refs c (h.refs c - 1), queued := true }

/-- The host takes a step; `none` when it is not possible. The work item is run once for each time
it is submitted, and the callbacks are called in the order of the events. -/
def BleHost.step (h : BleHost) : BleHostAction → Option BleHost
  | .advWork start =>
    if h.queued then
      some { h with
        queued := false
        advertised := if start = .ok then some h.core.advertisement else h.advertised }
    else none
  | .connected c err ended =>
    if h.advertised.isSome then
      some ({ h with
        advertised := if err = 0 ∨ ended = true then none else h.advertised
        connection := if err = 0 then some c else h.connection }.onConnected c err)
    else none
  | .disconnected _ =>
    match h.connection with
    | none => none
    | some c => some ({ h with connection := none }.onDisconnected c)

/-- The action fails: the advertising is not started, or ends without a connection. Neither is tried
again, since `prv_advertising_work_handler` and `prv_device_connected` only log the error. -/
def BleHostAction.Fails : BleHostAction → Prop
  | .advWork start => start ≠ .ok
  | .connected _ err ended => err ≠ 0 ∧ ended = true
  | .disconnected _ => False

instance (a : BleHostAction) : Decidable a.Fails :=
  a.casesOn (motive := fun a => Decidable a.Fails) (fun _ => inferInstanceAs (Decidable (_ ≠ _)))
    (fun _ _ _ => inferInstanceAs (Decidable (_ ∧ _))) fun _ => instDecidableFalse

/-- The device can be found, is connected, or is about to be found, and the service has the one
reference to its connection. These are the three phases of a device that works, and at any time it
is in exactly one of them. -/
inductive BleHost.Visible (deviceId : UInt32) (h : BleHost) : Prop
  | queued (core : h.core.Announces deviceId) (hq : h.queued = true) (ha : h.advertised = none)
      (hc : h.connection = none) (hconn : h.conn = none) (hrefs : h.refs = fun _ => 0)
  | advertising (core : h.core.Announces deviceId) (hq : h.queued = false)
      (ha : h.advertised =
        some ([btDataFlags, ⟨0x09, deviceNamePrefix ++ hex08 deviceId⟩],
          [⟨0x07, alfieBleServiceUuid⟩]))
      (hc : h.connection = none) (hconn : h.conn = none) (hrefs : h.refs = fun _ => 0)
  | connected (core : h.core.Announces deviceId) (hq : h.queued = false) (ha : h.advertised = none)
      {c : ℕ} (hc : h.connection = some c) (hconn : h.conn = some c)
      (hrefs : h.refs = fun c' => if c' = c then 1 else 0)

/-- Nothing will happen any more: there is no advertising, no connection and nothing queued, so no
event is left that could submit the work item. -/
structure BleHost.Dark (h : BleHost) : Prop where
  queued : h.queued = false
  advertised : h.advertised = none
  connection : h.connection = none
  conn : h.conn = none
  refs : h.refs = fun _ => 0

section Host

variable {deviceId : UInt32} {h h' : BleHost} {a : BleHostAction}

/-- In the dark no action is possible, each of them needing one of the three things that are
missing. -/
theorem BleHost.Dark.stuck (hdark : h.Dark) (a : BleHostAction) : h.step a = none := by
  cases a with
  | advWork start => exact if_neg (by rw [hdark.queued]; exact Bool.false_ne_true)
  | connected c err ended => exact if_neg (by rw [hdark.advertised]; exact Bool.false_ne_true)
  | disconnected reason =>
    unfold BleHost.step
    dsimp only
    rw [hdark.connection]

/-- The work item runs: a device that was about to advertise does so, or will not. -/
theorem BleHost.Visible.advWork (hv : h.Visible deviceId) {start : Ret}
    (hstep : h.step (.advWork start) = some h') :
    if start = .ok then h'.Visible deviceId else h'.Dark := by
  unfold BleHost.step at hstep
  dsimp only at hstep
  cases hv with
  | queued core hq ha hc hconn hrefs =>
    rw [if_pos hq] at hstep
    obtain rfl := Option.some.inj hstep
    by_cases hok : start = .ok
    · -- the advertisement is computed when the work item runs, from what is registered by then
      rw [if_pos hok, if_pos hok]
      exact .advertising core rfl (congrArg some core.advertisement.1) hc hconn hrefs
    · rw [if_neg hok, if_neg hok]
      exact ⟨rfl, ha, hc, hconn, hrefs⟩
  | advertising core hq | connected core hq =>
    -- it is not queued in the other two phases
    rw [if_neg (by rw [hq]; exact Bool.false_ne_true)] at hstep
    cases hstep

/-- The advertising has a result: a connection, an error after which it goes on, or an error that
ends it. -/
theorem BleHost.Visible.connected' (hv : h.Visible deviceId) {c : ℕ} {err : UInt8} {ended : Bool}
    (hstep : h.step (.connected c err ended) = some h') :
    if err ≠ 0 ∧ ended = true then h'.Dark else h'.Visible deviceId := by
  unfold BleHost.step at hstep
  dsimp only at hstep
  cases hv with
  | queued core hq ha | connected core hq ha =>
    -- nothing is advertised in the other two phases
    rw [if_neg (by rw [ha]; exact Bool.false_ne_true)] at hstep
    cases hstep
  | advertising core hq ha hc hconn hrefs =>
    rw [if_pos (by rw [ha]; rfl)] at hstep
    obtain rfl := Option.some.inj hstep
    unfold BleHost.onConnected
    by_cases herr : err = 0
    · -- the service takes its reference
      rw [if_neg fun hf => hf.1 herr, if_neg (not_not_intro herr)]
      refine .connected core hq (if_pos (.inl herr)) (if_pos herr) rfl ?_
      funext c'
      dsimp only
      rw [hrefs, Function.update_apply]
    · -- an error is logged, so it matters only whether the advertising has ended with it
      rw [if_pos herr, if_neg herr]
      cases ended with
      | true =>
        rw [if_pos ⟨herr, rfl⟩, if_pos (.inr rfl)]
        exact ⟨hq, rfl, hc, hconn, hrefs⟩
      | false =>
        have hgoes : ¬ (err = 0 ∨ false = true) := by
          rintro (h0 | hend)
          · exact herr h0
          · exact Bool.false_ne_true hend
        rw [if_neg fun hf => Bool.false_ne_true hf.2, if_neg hgoes]
        exact .advertising core hq ha hc hconn hrefs

/-- The connection is gone: the reference is dropped and the advertising is queued, so a client can
come back. -/
theorem BleHost.Visible.disconnected (hv : h.Visible deviceId) {reason : UInt8}
    (hstep : h.step (.disconnected reason) = some h') : h'.Visible deviceId := by
  unfold BleHost.step at hstep
  dsimp only at hstep
  cases hv with
  | queued core hq ha hc | advertising core hq ha hc =>
    -- only a connected device loses a connection
    rw [hc] at hstep
    cases hstep
  | @connected core hq ha c hc hconn hrefs =>
    rw [hc] at hstep
    obtain rfl := Option.some.inj hstep
    refine .queued core rfl ha rfl rfl ?_
    funext c'
    unfold BleHost.onDisconnected
    dsimp only
    rw [hrefs, Function.update_apply]
    -- the one reference there was is the one that is dropped
    by_cases heq : c' = c
    · rw [if_pos heq]
      exact congrArg (· - 1) (if_pos rfl)
    · rw [if_neg heq, if_neg heq]

/-- **One step**: a failure ends in the dark; after anything else the device is still visible. -/
theorem BleHost.Visible.step (hv : h.Visible deviceId) (hstep : h.step a = some h') :
    (a.Fails → h'.Dark) ∧ (¬ a.Fails → h'.Visible deviceId) := by
  cases a with
  | advWork start =>
    have hwork := hv.advWork hstep
    split at hwork
    · next hok => exact ⟨fun hf => absurd hok hf, fun _ => hwork⟩
    · next hok => exact ⟨fun _ => hwork, fun hf => absurd hok hf⟩
  | connected c err ended =>
    have hconnected := hv.connected' hstep
    split at hconnected
    · next hf => exact ⟨fun _ => hconnected, fun hn => absurd hf hn⟩
    · next hf => exact ⟨fun hn => absurd hn hf, fun _ => hconnected⟩
  | disconnected reason => exact ⟨fun hf => absurd hf not_false, fun _ => hv.disconnected hstep⟩

/-- **A device is visible until the first failure, which is the end**: in a run that starts with a
visible device, either nothing fails and the device is visible, or the last action of the run is the
only one that fails, and after it nothing happens any more. -/
theorem visible_until_failure {as : List BleHostAction} (hv : h.Visible deviceId)
    (hrun : Steps BleHost.step (fun _ _ => True) h as h') :
    (∀ a ∈ as, ¬ a.Fails) ∧ h'.Visible deviceId ∨
      (∃ before a, as = before ++ [a] ∧ (∀ b ∈ before, ¬ b.Fails) ∧ a.Fails) ∧ h'.Dark ∧
        ∀ a, h'.step a = none := by
  induction hrun with
  | nil s => exact .inl ⟨fun a ha => absurd ha List.not_mem_nil, hv⟩
  | @cons s t u a as _ hstep hrest ih =>
    obtain ⟨hdark, hvisible⟩ := hv.step hstep
    by_cases hf : a.Fails
    · -- nothing follows
      have ht := hdark hf
      cases hrest with
      | nil => exact .inr ⟨⟨[], a, rfl, fun b hb => absurd hb List.not_mem_nil, hf⟩, ht, ht.stuck⟩
      | cons _ hnext _ =>
        rw [ht.stuck] at hnext
        cases hnext
    · rcases ih (hvisible hf) with ⟨hnone, hu⟩ | ⟨⟨before, b, rfl, hbefore, hb⟩, hu⟩
      · exact .inl ⟨List.forall_mem_cons.mpr ⟨hf, hnone⟩, hu⟩
      · exact .inr ⟨⟨a :: before, b, rfl, List.forall_mem_cons.mpr ⟨hf, hbefore⟩, hb⟩, hu⟩

end Host

/-- The host of device 1 when `main` starts the advertising: all is registered and the work item
queued. -/
def startedHost : BleHost where
  core := ⟨⟨0x09, deviceNamePrefix ++ hex08 1⟩, [alfieBleServiceUuid], true⟩
  queued := true
  advertised := none
  connection := none
  conn := none
  refs _ := 0

/-- A client connects and is gone, and then the advertising cannot be started: the failure of one
call long after the start. -/
def failedRestart : List BleHostAction :=
  [.advWork .ok, .connected 5 0 false, .disconnected 8, .advWork (.err .enomem)]

/-- The failure is the last thing that happens: the device cannot be found again until it is
restarted. -/
theorem visible_until_failure_restart :
    ∃ h', Steps BleHost.step (fun _ _ => True) startedHost failedRestart h' ∧
      ((∀ a ∈ failedRestart, ¬ a.Fails) ∧ h'.Visible 1 ∨
        (∃ before a, failedRestart = before ++ [a] ∧ (∀ b ∈ before, ¬ b.Fails) ∧ a.Fails) ∧
          h'.Dark ∧ ∀ a, h'.step a = none) := by
  obtain ⟨h', hrun⟩ : ∃ h', Steps BleHost.step (fun _ _ => True) startedHost failedRestart h' :=
    ⟨_, steps_of_checkRun rfl⟩
  exact ⟨h', hrun, visible_until_failure (.queued ⟨rfl, rfl, rfl⟩ rfl rfl rfl rfl rfl) hrun⟩

end DectCommunicator

import Mathlib.Data.List.Induction
import DectCommunicator.Lib.SinglyLinked
import DectCommunicator.Utils.Errno
import DectCommunicator.Alfie.Router

/-!
# Registration

`alfie_router_register_transport` and `alfie_router_register_endpoint`, which append the object they
are given to an intrusive list, and the loops of the router over these lists.

In the model of the router the transports and endpoints are lists. They are the objects registered,
in order, as long as none is registered twice (`Registry.run_linked`), and the loops then do what
the router does with them (`prvForwardLoop_linked`, `prvNotifyEndpointLoop_linked`). Neither
function looks for the object in the list, and with the first repetition the list ends in a loop or
loses objects (`registration_traversable_iff`).
-/

namespace DectCommunicator

open Machine SinglyLinked

/-! ### The functions -/

/-- The lists of the private instance of the router, whose nodes are the addresses of the
objects. -/
structure Registry where
  initialized : Bool
  transports : SList ℕ
  endpoints : SList ℕ

/-- `alfie_router_init`: a second initialisation is refused, and would otherwise empty the lists. -/
def alfieRouterInit (r : Registry) : Ret × Registry :=
  if r.initialized then (.err .ealready, r)
  else
    (.ok, ⟨true, SList.init r.transports.next, SList.init r.endpoints.next⟩)

/-- `alfie_transport_api_t`: whether there is a `write`, and what `register_rx_cb` returns if there
is one. -/
structure AlfieTransportApi where
  write : Bool
  registerRxCb : Option Ret
deriving DecidableEq, Repr

/-- The `alfie_transport_t` at an address, as far as the registration reads it. -/
structure TransportArg where
  addr : ℕ
  api : Option AlfieTransportApi
deriving DecidableEq, Repr

/-- The `alfie_endpoint_t` at an address, and whether it has an `on_frame_rx`. -/
structure EndpointArg where
  addr : ℕ
  onFrameRx : Bool
deriving DecidableEq, Repr

/-- `alfie_router_register_transport`; `none` is NULL. The callback is registered before the object
is in the list, and the list is not searched for the object. -/
def alfieRouterRegisterTransport (r : Registry) (transport : Option TransportArg) :
    Ret × Registry :=
  if r.initialized = false then (.err .enodev, r)
  else
    match transport with
    | none => (.err .einval, r)
    | some t =>
      match t.api with
      | none => (.err .einval, r)
      | some api =>
        match api.write, api.registerRxCb with
        | true, some (.err e) => (.err e, r)
        | true, some .ok => (.ok, { r with transports := r.transports.append t.addr })
        | _, _ => (.err .einval, r)

/-- `alfie_router_register_endpoint`; `none` is NULL. The list is not searched here either. -/
def alfieRouterRegisterEndpoint (r : Registry) (endpoint : Option EndpointArg) : Ret × Registry :=
  if r.initialized = false then (.err .enodev, r)
  else
    match endpoint with
    | none => (.err .einval, r)
    | some e =>
      if e.onFrameRx = false then (.err .einval, r)
      else (.ok, { r with endpoints := r.endpoints.append e.addr })

/-- The loop of `prv_forward_to_downstream` and `prv_forward_to_upstream` over the transports, of
the types `typeOf`, and what follows it. -/
def prvForwardLoop (type : AlfieTransportType) (typeOf : ℕ → AlfieTransportType) (r : Registry)
    (buffer fuel : ℕ) : Option (List RouterStmt) :=
  (forEach r.transports.next (fun _ => false) fuel r.transports.head).map fun nodes =>
    prvForward type (nodes.map fun a => ⟨a, typeOf a⟩) buffer

/-- The loop of `prv_notify_endpoint` over the endpoints, of the ids `idOf`: it is left at the first
one with the id of the header. -/
def prvNotifyEndpointLoop (idOf : ℕ → UInt8) (r : Registry) (header : AlfieProtoHeader)
    (buffer fuel : ℕ) : Option (List RouterEffect) :=
  (forEach r.endpoints.next (fun a => idOf a = header.endpointId) fuel r.endpoints.head).map
    fun nodes => prvNotifyEndpoint (nodes.map fun a => ⟨a, idOf a⟩) header buffer

/-! ### Runs -/

/-- A call of one of the two functions, with what it reads of its argument. -/
inductive RegistrationCall where
  | transport (arg : Option TransportArg)
  | endpoint (arg : Option EndpointArg)
deriving DecidableEq, Repr

/-- The function is called, and returns a code. -/
def Registry.call (r : Registry) : RegistrationCall → Ret × Registry
  | .transport arg => alfieRouterRegisterTransport r arg
  | .endpoint arg => alfieRouterRegisterEndpoint r arg

/-- The calls as a machine that emits their return codes. -/
def Registry.step (r : Registry) (c : RegistrationCall) : Registry × List Ret :=
  ((r.call c).2, [(r.call c).1])

/-- The transport that a call registers: it passes the checks, and `register_rx_cb` succeeds. -/
def RegistrationCall.transport? : RegistrationCall → Option ℕ
  | .transport (some ⟨addr, some ⟨true, some .ok⟩⟩) => some addr
  | _ => none

/-- The endpoint that a call registers: it has an `on_frame_rx`. -/
def RegistrationCall.endpoint? : RegistrationCall → Option ℕ
  | .endpoint (some ⟨addr, true⟩) => some addr
  | _ => none

/-- The transports that calls register, in order and with their repetitions. -/
def registeredTransports (calls : List RegistrationCall) : List ℕ :=
  calls.filterMap RegistrationCall.transport?

/-- The endpoints that calls register, in order and with their repetitions. -/
def registeredEndpoints (calls : List RegistrationCall) : List ℕ :=
  calls.filterMap RegistrationCall.endpoint?

/-- The router after `alfie_router_init`, the links of the objects being what they are. -/
def Registry.init (transportNext endpointNext : ℕ → Option ℕ) : Registry :=
  ⟨true, SList.init transportNext, SList.init endpointNext⟩

/-- The first initialisation leads to the state with which the runs below begin. -/
theorem alfieRouterInit_eq {r : Registry} (h : r.initialized = false) :
    alfieRouterInit r = (.ok, .init r.transports.next r.endpoints.next) :=
  if_neg (by rw [h]; exact Bool.false_ne_true)

/-- What a call does after the initialisation: one of the lists is appended to, or nothing
changes. -/
inductive Registry.Called (r : Registry) (c : RegistrationCall) : Ret → Registry → Prop
  | transport {a : ℕ} (ht : c.transport? = some a) (he : c.endpoint? = none) :
      Registry.Called r c .ok { r with transports := r.transports.append a }
  | endpoint {a : ℕ} (ht : c.transport? = none) (he : c.endpoint? = some a) :
      Registry.Called r c .ok { r with endpoints := r.endpoints.append a }
  | refused {e : Errno} (ht : c.transport? = none) (he : c.endpoint? = none) :
      Registry.Called r c (.err e) r

/-- **Inversion of a call**, by the checks of the two functions. -/
theorem Registry.call_spec {r : Registry} (h : r.initialized = true) (c : RegistrationCall) :
    r.Called c (r.call c).1 (r.call c).2 := by
  obtain ⟨initialized, transports, endpoints⟩ := r
  obtain rfl : initialized = true := h
  -- one case for each way a check can fail
  cases c with
  | transport arg =>
    rcases arg with _ | ⟨addr, _ | ⟨_ | _, _ | _ | _⟩⟩
    all_goals first | exact .transport rfl rfl | exact .refused rfl rfl
  | endpoint arg =>
    rcases arg with _ | ⟨addr, _ | _⟩
    all_goals first | exact .endpoint rfl rfl | exact .refused rfl rfl

/-! ### Runs without a repetition -/

/-- The lists of the router hold what has been registered. -/
structure RegistryInv (r : Registry) (transports endpoints : List ℕ) : Prop where
  initialized : r.initialized = true
  transports : Linked r.transports transports
  endpoints : Linked r.endpoints endpoints

/-- One call more registers one transport more, or none. -/
theorem registeredTransports_snoc (calls : List RegistrationCall) (c : RegistrationCall) :
    registeredTransports (calls ++ [c]) = registeredTransports calls ++ c.transport?.toList := by
  unfold registeredTransports
  rw [List.filterMap_append]
  cases h : c.transport? <;> simp [h]

/-- And so it is with the endpoints. -/
theorem registeredEndpoints_snoc (calls : List RegistrationCall) (c : RegistrationCall) :
    registeredEndpoints (calls ++ [c]) = registeredEndpoints calls ++ c.endpoint?.toList := by
  unfold registeredEndpoints
  rw [List.filterMap_append]
  cases h : c.endpoint? <;> simp [h]

/-- The state after one more call is what the call makes of the state before it. -/
theorem runs_snoc (r : Registry) (calls : List RegistrationCall) (c : RegistrationCall) :
    runs Registry.step r (calls ++ [c]) = ((runs Registry.step r calls).call c).2 := by
  unfold runs
  rw [List.foldl_append]
  rfl

variable {calls : List RegistrationCall} {r : Registry} {ts es : List ℕ}

/-- **One call** that does not repeat a registration: the object is new to its list, so appending it
links it behind the others. -/
theorem RegistryInv.call (h : RegistryInv r ts es) {c : RegistrationCall}
    (hts : (ts ++ c.transport?.toList).Nodup) (hes : (es ++ c.endpoint?.toList).Nodup) :
    RegistryInv (r.call c).2 (ts ++ c.transport?.toList) (es ++ c.endpoint?.toList) := by
  have hcalled := Registry.call_spec h.initialized c
  generalize (r.call c).1 = ret at hcalled
  generalize (r.call c).2 = r' at hcalled ⊢
  cases hcalled with
  | @transport a ht he =>
    rw [ht] at hts ⊢
    rw [he, Option.toList_none, List.append_nil]
    -- not registered before, as the whole list of registrations is without repetition
    have hnew : a ∉ ts := fun ha => List.disjoint_of_nodup_append hts ha List.mem_cons_self
    exact ⟨h.initialized, h.transports.append hts.of_append_left hnew, h.endpoints⟩
  | @endpoint a ht he =>
    rw [he] at hes ⊢
    rw [ht, Option.toList_none, List.append_nil]
    have hnew : a ∉ es := fun ha => List.disjoint_of_nodup_append hes ha List.mem_cons_self
    exact ⟨h.initialized, h.transports, h.endpoints.append hes.of_append_left hnew⟩
  -- a call that is refused leaves the lists as they are
  | refused ht he =>
    rw [ht, he, Option.toList_none, List.append_nil, List.append_nil]
    exact h

/-- **The run.** By induction on the calls from the last one backwards, what they do not repeat none
of their beginnings repeats. -/
theorem Registry.run_linked (transportNext endpointNext : ℕ → Option ℕ)
    (hts : (registeredTransports calls).Nodup) (hes : (registeredEndpoints calls).Nodup) :
    RegistryInv (runs Registry.step (.init transportNext endpointNext) calls)
      (registeredTransports calls) (registeredEndpoints calls) := by
  induction calls using List.reverseRecOn with
  | nil => exact ⟨rfl, .init transportNext, .init endpointNext⟩
  | append_singleton calls c ih =>
    rw [registeredTransports_snoc] at hts ⊢
    rw [registeredEndpoints_snoc] at hes ⊢
    rw [runs_snoc]
    exact (ih hts.of_append_left hes.of_append_left).call hts hes

/-- The loops of the forward functions do what the router does with the registered transports. -/
theorem prvForwardLoop_linked (h : RegistryInv r ts es) (type : AlfieTransportType)
    (typeOf : ℕ → AlfieTransportType) (buffer : ℕ) :
    prvForwardLoop type typeOf r buffer ts.length =
      some (prvForward type (ts.map fun a => ⟨a, typeOf a⟩) buffer) := by
  unfold prvForwardLoop
  rw [forEach_of_segment _ h.transports.segment le_rfl, visited_all]
  rfl

/-- And `prv_notify_endpoint` does what the router does with the registered endpoints. -/
theorem prvNotifyEndpointLoop_linked (h : RegistryInv r ts es) (idOf : ℕ → UInt8)
    (header : AlfieProtoHeader) (buffer : ℕ) :
    prvNotifyEndpointLoop idOf r header buffer es.length =
      some (prvNotifyEndpoint (es.map fun a => ⟨a, idOf a⟩) header buffer) := by
  have hfind : ∀ nodes : List ℕ, (nodes.map fun a => AlfieEndpoint.mk a (idOf a)).find?
      (fun e => decide (e.endpointId = header.endpointId)) =
        (nodes.find? fun a => decide (idOf a = header.endpointId)).map fun a => ⟨a, idOf a⟩ :=
    fun nodes => List.find?_map ..
  unfold prvNotifyEndpointLoop prvNotifyEndpoint
  rw [forEach_of_segment _ h.endpoints.segment le_rfl, Option.map_some, hfind, hfind,
    find?_visited]

/-! ### Traversable lists -/

/-- The loop over the list ends, and visits every registered object exactly once, and no other. -/
def Traverses (l : SList ℕ) (registered : List ℕ) : Prop :=
  ∃ fuel nodes, forEach l.next (fun _ => false) fuel l.head = some nodes ∧ nodes.Nodup ∧
    ∀ a, a ∈ nodes ↔ a ∈ registered

/-- Both lists can be traversed, and the functions that traverse them finish. -/
structure Registry.Traversable (r : Registry) (transports endpoints : List ℕ) : Prop where
  transports : Traverses r.transports transports
  endpoints : Traverses r.endpoints endpoints
  forward : ∀ type typeOf buffer, ∃ fuel, (prvForwardLoop type typeOf r buffer fuel).isSome
  notify : ∀ idOf header buffer, ∃ fuel, (prvNotifyEndpointLoop idOf r header buffer fuel).isSome

/-- A list that is linked is traversed from its head to its end. -/
theorem traverses_of_linked {l : SList ℕ} {nodes : List ℕ} (h : Linked l nodes)
    (hnodup : nodes.Nodup) : Traverses l nodes := by
  refine ⟨nodes.length, nodes, ?_, hnodup, fun _ => Iff.rfl⟩
  rw [forEach_of_segment _ h.segment le_rfl, visited_all]

/-- After a repetition something that is registered is not visited. -/
theorem not_traverses_again {l : SList ℕ} {nodes registered : List ℕ} {n : ℕ} (h : Linked l nodes)
    (hnodup : nodes.Nodup) (hn : n ∈ nodes) (hsub : ∀ a ∈ nodes, a ∈ registered) :
    ¬ Traverses (l.append n) registered := by
  rintro ⟨fuel, seen, hloop, -, hmem⟩
  obtain ⟨a, ha, hnot⟩ := h.append_again hnodup hn (segment_of_forEach hloop)
  exact hnot ((hmem a).mpr (hsub a ha))

/-- Both lists are, so the functions that traverse them finish too. -/
theorem RegistryInv.traversable (h : RegistryInv r ts es) (hts : ts.Nodup) (hes : es.Nodup) :
    r.Traversable ts es where
  transports := traverses_of_linked h.transports hts
  endpoints := traverses_of_linked h.endpoints hes
  forward type typeOf buffer :=
    ⟨ts.length, by rw [prvForwardLoop_linked h type typeOf buffer]; rfl⟩
  notify idOf header buffer :=
    ⟨es.length, by rw [prvNotifyEndpointLoop_linked h idOf header buffer]; rfl⟩

/-- **The lists stay traversable as long as no object is registered twice**: after every call that
returns 0, traversing them ends and visits what has been registered, exactly once, if and only if
the successful calls are about different transports and different endpoints. -/
theorem registration_traversable_iff (transportNext endpointNext : ℕ → Option ℕ)
    (calls : List RegistrationCall) :
    (∀ before c after, calls = before ++ c :: after →
      ((runs Registry.step (.init transportNext endpointNext) before).call c).1 = .ok →
      (runs Registry.step (.init transportNext endpointNext) (before ++ [c])).Traversable
        (registeredTransports (before ++ [c])) (registeredEndpoints (before ++ [c]))) ↔
    (registeredTransports calls).Nodup ∧ (registeredEndpoints calls).Nodup := by
  constructor
  · induction calls using List.reverseRecOn with
    | nil => exact fun _ => ⟨List.nodup_nil, List.nodup_nil⟩
    | append_singleton calls c ih =>
      intro h
      -- the calls before the last one repeat nothing
      obtain ⟨hts, hes⟩ := ih fun before d after heq hok =>
        h before d (after ++ [c]) (by rw [heq, List.append_assoc, List.cons_append]) hok
      have hinv := Registry.run_linked transportNext endpointNext hts hes
      have hlast := h calls c [] rfl
      rw [runs_snoc, registeredTransports_snoc, registeredEndpoints_snoc] at hlast
      rw [registeredTransports_snoc, registeredEndpoints_snoc]
      have hcalled := Registry.call_spec hinv.initialized c
      generalize ((runs Registry.step (.init transportNext endpointNext) calls).call c).1 = ret
        at hcalled hlast
      generalize ((runs Registry.step (.init transportNext endpointNext) calls).call c).2 = r'
        at hcalled hlast
      cases hcalled with
      | @transport a ht he =>
        -- a transport that is in the list already makes it miss one
        rw [ht] at hlast
        rw [ht, he, Option.toList_none, List.append_nil, Option.toList_some, ← List.concat_eq_append]
        refine ⟨hts.concat fun ha => ?_, hes⟩
        exact not_traverses_again hinv.transports hts ha
          (fun b hb => List.mem_append_left _ hb) (hlast rfl).transports
      | @endpoint a ht he =>
        rw [he] at hlast
        rw [ht, he, Option.toList_none, List.append_nil, Option.toList_some, ← List.concat_eq_append]
        refine ⟨hts, hes.concat fun ha => ?_⟩
        exact not_traverses_again hinv.endpoints hes ha
          (fun b hb => List.mem_append_left _ hb) (hlast rfl).endpoints
      | refused ht he =>
        rw [ht, he, Option.toList_none, List.append_nil, List.append_nil]
        exact ⟨hts, hes⟩
  · -- what all calls do not repeat, the first of them do not either
    rintro ⟨hts, hes⟩ before c after rfl -
    have hcalls : before ++ c :: after = (before ++ [c]) ++ after := by
      rw [List.append_assoc, List.singleton_append]
    unfold registeredTransports at hts
    unfold registeredEndpoints at hes
    rw [hcalls, List.filterMap_append] at hts hes
    exact (Registry.run_linked transportNext endpointNext hts.of_append_left
      hes.of_append_left).traversable hts.of_append_left hes.of_append_left

/-- The same endpoint is registered twice, both times with success: `prv_notify_endpoint` does not
finish with a message for another one. -/
theorem register_endpoint_twice :
    ∃ (calls : List RegistrationCall) (r : Registry),
      calls = [.endpoint (some ⟨7, true⟩), .endpoint (some ⟨7, true⟩)] ∧
      r = runs Registry.step (.init (fun _ => none) fun _ => none) calls ∧
      outputs Registry.step (.init (fun _ => none) fun _ => none) calls = [.ok, .ok] ∧
      ¬ r.Traversable (registeredTransports calls) (registeredEndpoints calls) ∧
      ∀ fuel, prvNotifyEndpointLoop (fun _ => 0) r ⟨0, 3, 1, 5⟩ 40 fuel = none := by
  refine ⟨_, _, rfl, rfl, rfl, fun h => ?_, fun fuel => ?_⟩
  · -- the registered endpoint links to itself
    obtain ⟨fuel, nodes, hloop, -, -⟩ := h.endpoints
    exact absurd (segment_of_forEach hloop) (not_segment_of_self rfl)
  · -- the message is for endpoint 1, and 7 has the id 0
    cases h : prvNotifyEndpointLoop _ _ _ _ fuel with
    | none => rfl
    | some effects =>
      obtain ⟨nodes, hloop, -⟩ := Option.map_eq_some_iff.mp h
      exact absurd (segment_of_forEach hloop) (not_segment_of_self rfl)

end DectCommunicator

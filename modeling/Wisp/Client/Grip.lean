import Wisp.Client.Context

/-!
# What a client knows about its grants

A grant travels through the receive queue and through the program counter of the
control thread before it reaches `granted_generation`, and only then `active` is set.
`pending` is what is still on this way, in order.

`Handled` lists what a step of the control thread can do to all of this. Together with
the step function of the application thread, which takes part only by clearing
`active`, it is all that the results about several clients need to know of one.
-/

namespace Wisp

/-- The generation a message grants. -/
def ServerMsg.grant : ServerMsg → Option UInt32
  | .activateGrant generation _ => some generation
  | _ => none

/-- The grant `wispc_handle_grant` is working on and has not stored yet. -/
def ControlPc.grant : ControlPc → Option UInt32
  | .attach generation _ | .adopt generation _ | .storeGeneration generation => some generation
  | _ => none

/-- `wispc_connect` has not returned. -/
def ControlPc.connecting : ControlPc → Bool
  | .dial | .sendConnect | .awaitMode | .sendRequest | .awaitGrant | .spawn => true
  | _ => false

/-- The application is between a positive `wispc_is_active` and the end of the frame
that it started for it. -/
def AppPc.busy : AppPc → Bool
  | .offline | .top | .announce _ _ | .awaitAck | .join | .sendDisconnect | .gone | .aborted =>
      false
  | _ => true

namespace ControlPc.Leads

variable {pc pc' : ControlPc} {sent : Option MsgKind}

/-- No grant is worked on where such a way leads. -/
theorem idle (leads : pc.Leads sent pc') :
    pc ≠ .storeActive ∧ pc' ≠ .storeActive ∧ pc'.grant = none := by
  cases leads <;> exact ⟨by simp, by simp, rfl⟩

theorem connecting (leads : pc.Leads sent pc') (connects : pc'.connecting = true) :
    pc.connecting = true := by
  cases leads <;> first | rfl | cases connects

end ControlPc.Leads

namespace Client

variable {a b : Client} {ring : Ring}

/-- The grants that the server has sent and the client has not stored. -/
def pending (client : Client) : List UInt32 :=
  client.control.grant.toList ++ client.inbox.filterMap ServerMsg.grant

/-- A grant has been stored: the client is active or about to be, or it acts on the
strength of having been. -/
def Seasoned (client : Client) : Prop :=
  client.active = true ∨ client.control = .storeActive ∨ client.app.busy = true

/-- The application has no context before `wispc_connect` returns. -/
def Sane (client : Client) : Prop :=
  client.control.connecting = true → client.app = .offline

/-- Both threads stand where they stood, and no grant has come or gone. -/
structure Quiet (a b : Client) : Prop where
  control : b.control = a.control
  app : b.app = a.app
  active : b.active = a.active
  granted : b.grantedGeneration = a.grantedGeneration
  pending : b.pending = a.pending

theorem Quiet.refl (client : Client) : Quiet client client :=
  ⟨rfl, rfl, rfl, rfl, rfl⟩

/-- A message that is no grant goes into the queue. -/
theorem quiet_deliver (client : Client) {msg : ServerMsg} (other : msg.grant = none) :
    Quiet client (client.deliver msg) := by
  unfold deliver
  split
  · exact .refl client
  · exact ⟨rfl, rfl, rfl, rfl, by simp [pending, other]⟩

/-- What one step of the control thread does to the grants of the client. -/
inductive Handled (a b : Client) : Prop where
  | keep (pending : b.pending.Sublist a.pending)
      (granted : b.grantedGeneration = a.grantedGeneration) (active : b.active = a.active)
      (before : a.control ≠ .storeActive) (after : b.control ≠ .storeActive)
      (app : b.app = a.app ∨ a.app = .offline ∧ (b.app = .top ∨ b.app = .gone))
  | adopt (pending : a.pending = b.grantedGeneration :: b.pending)
      (active : b.active = a.active) (after : b.control = .storeActive) (app : b.app = a.app)
  | arm (pending : b.pending = a.pending)
      (granted : b.grantedGeneration = a.grantedGeneration) (active : b.active = true)
      (before : a.control = .storeActive) (after : b.control ≠ .storeActive)
      (app : b.app = a.app)
  | clear (pending : b.pending = a.pending)
      (granted : b.grantedGeneration = a.grantedGeneration) (active : b.active = false)
      (before : a.control ≠ .storeActive) (after : b.control ≠ .storeActive)
      (app : b.app = a.app)

/-- A step that stores neither of the two fields. The new program counter works on no
grant that was not pending before. -/
theorem Handled.of_goto {pc : ControlPc} {next : Client}
    (granted : next.grantedGeneration = a.grantedGeneration) (active : next.active = a.active)
    (app : next.app = a.app) (before : a.control ≠ .storeActive) (after : pc ≠ .storeActive)
    (pending : (pc.grant.toList ++ next.inbox.filterMap ServerMsg.grant).Sublist a.pending) :
    Handled a (next.goto pc) :=
  .keep pending granted active before after (.inl app)

/-- The end of the context drops what was pending. -/
theorem Handled.of_exit {next : Client}
    (granted : next.grantedGeneration = a.grantedGeneration) (active : next.active = a.active)
    (before : a.control ≠ .storeActive) (offline : a.app = .offline)
    (pending : (next.inbox.filterMap ServerMsg.grant).Sublist a.pending) :
    Handled a (next.exit .gone) :=
  .keep pending granted active before (by simp [exit]) (.inr ⟨offline, .inr rfl⟩)

theorem inbox_sublist_pending (client : Client) :
    (client.inbox.filterMap ServerMsg.grant).Sublist client.pending :=
  List.sublist_append_right _ _

/-- Taking out the head of the receive queue. -/
theorem taken_sublist_pending (client : Client) :
    (client.taken.inbox.filterMap ServerMsg.grant).Sublist client.pending :=
  ((List.tail_sublist _).filterMap _).trans client.inbox_sublist_pending

theorem Handled.of_refuseGrant (before : a.control ≠ .storeActive) :
    Handled a a.refuseGrant := by
  unfold refuseGrant
  split
  · exact .of_exit rfl rfl before ‹_› a.inbox_sublist_pending
  · exact .of_goto rfl rfl rfl before (by simp) a.inbox_sublist_pending

theorem Handled.of_negotiate {msg : ServerMsg} (before : a.control = .awaitMode)
    (offline : a.app = .offline) : Handled a (a.taken.negotiate msg) := by
  have idle : a.control ≠ .storeActive := by simp [before]
  rcases a.taken.negotiate_cases msg with gone | ⟨mode, goes⟩
  · rw [gone]
    exact .of_exit rfl rfl idle offline a.taken_sublist_pending
  · rw [goes]
    exact .of_goto rfl rfl rfl idle (by simp) a.taken_sublist_pending

/-- A received grant stays pending: it moves from the queue into the program counter. -/
theorem received_grant {msg : ServerMsg} {rest : List ServerMsg} {generation : UInt32}
    (inbox : a.inbox = msg :: rest) (grant : msg.grant = some generation) :
    (generation :: a.taken.inbox.filterMap ServerMsg.grant).Sublist a.pending := by
  have arrives : a.inbox.filterMap ServerMsg.grant =
      generation :: a.taken.inbox.filterMap ServerMsg.grant := by
    simp [inbox, taken, grant]
  rw [← arrives]
  exact a.inbox_sublist_pending

theorem Handled.of_activation {msg : ServerMsg} {rest : List ServerMsg} {ok : Bool}
    (inbox : a.inbox = msg :: rest) (before : a.control ≠ .storeActive) :
    Handled a (a.taken.activation ok msg) := by
  cases msg with
  | activateGrant generation frameFd =>
      exact .of_goto rfl rfl rfl before (by simp) (received_grant inbox rfl)
  | _ => exact .of_goto rfl rfl rfl before (by simp) a.taken_sublist_pending

theorem Handled.of_dispatch {msg : ServerMsg} {rest : List ServerMsg} {ok : Bool}
    (inbox : a.inbox = msg :: rest) (before : a.control ≠ .storeActive) :
    Handled a (a.taken.dispatch ok msg) := by
  cases msg with
  | activateGrant generation frameFd =>
      exact .of_goto rfl rfl rfl before (by simp) (received_grant inbox rfl)
  | dmabufAck accepted =>
      cases accepted with
      | false => exact .of_goto rfl rfl rfl before (by simp) a.taken_sublist_pending
      | true => exact .of_goto rfl rfl rfl before (by simp) a.taken_sublist_pending
  | _ => exact .of_goto rfl rfl rfl before (by simp) a.taken_sublist_pending

/-- A step of the control thread that only moves on. -/
theorem Handled.of_move {pc : ControlPc} {next : Client}
    (granted : next.grantedGeneration = a.grantedGeneration) (active : next.active = a.active)
    (app : next.app = a.app) (inbox : next.inbox = a.inbox) (before : a.control ≠ .storeActive)
    (after : pc ≠ .storeActive) (idle : pc.grant = none) : Handled a (next.goto pc) := by
  refine .of_goto granted active app before after ?_
  rw [idle, inbox]
  exact a.inbox_sublist_pending

/-- Every step of the control thread is one of the four kinds. -/
theorem handled_of_controlStep {ok : Bool} {now : Timespec} (sane : a.Sane)
    (taken : a.controlStep ring ok now = some b) : Handled a b := by
  cases proceeds_of_controlStep taken with
  | moves leads | sends leads =>
      obtain ⟨before, after, idle⟩ := leads.idle
      exact .of_move rfl rfl rfl rfl before after idle
  | gone stands =>
      have offline : a.app = .offline := sane (by rw [stands]; rfl)
      exact .of_exit rfl rfl (by simp [stands]) offline a.inbox_sublist_pending
  | negotiates stands =>
      have offline : a.app = .offline := sane (by rw [stands]; rfl)
      exact .of_negotiate stands offline
  | activates stands inbox => exact .of_activation inbox (by simp [stands])
  | dispatches stands inbox => exact .of_dispatch inbox (by simp [stands])
  | attaches stands | adopts stands =>
      exact .of_goto rfl rfl rfl (by simp [stands]) (by simp)
        (by simp [pending, stands, ControlPc.grant])
  | unattached stands | unpassed stands => exact .of_refuseGrant (by simp [stands])
  | stores stands =>
      exact .adopt (by simp [pending, stands, ControlPc.grant, goto]) rfl rfl rfl
  | arms stands =>
      exact .arm (by simp [pending, stands, ControlPc.grant, goto]) rfl rfl stands
        (by simp [goto]) rfl
  | readies stands =>
      unfold resume
      split
      · exact .of_move rfl rfl rfl rfl (by simp [stands]) (by simp) rfl
      · exact .of_move rfl rfl rfl rfl (by simp [stands]) (by simp) rfl
  | spawns stands =>
      have offline : a.app = .offline := sane (by rw [stands]; rfl)
      exact .keep (by simp [pending, stands, ControlPc.grant, goto, turn]) rfl rfl
        (by simp [stands]) (by simp [goto, turn]) (.inr ⟨offline, .inl rfl⟩)
  | disarms stands =>
      rcases stands with ⟨stands, rfl⟩ | ⟨stands, rfl⟩
      all_goals
        exact .clear (by simp [pending, stands, ControlPc.grant, goto]) rfl rfl (by simp [stands])
          (by simp [goto]) rfl

theorem sane_fresh (clientId : ClientId) (modes : List RenderMode) :
    (fresh clientId modes).Sane :=
  fun _ => rfl

theorem connecting_refuseGrant (client : Client) :
    client.refuseGrant.control.connecting = false := by
  unfold refuseGrant
  split <;> rfl

/-- The control thread leaves the connecting phase only through `spawn`, and returns to
`spawn` only for a caller that is still waiting for its context. -/
theorem sane_of_controlStep {ok : Bool} {now : Timespec} (sane : a.Sane)
    (taken : a.controlStep ring ok now = some b) : b.Sane := by
  intro connecting
  cases proceeds_of_controlStep taken with
  | moves leads | sends leads => exact sane (leads.connecting connecting)
  | @negotiates msg _ stands =>
      have offline : a.app = .offline := sane (by rw [stands]; rfl)
      rcases a.taken.negotiate_cases msg with gone | ⟨mode, goes⟩
      · rw [gone] at connecting
        cases connecting
      · rw [goes]
        exact offline
  | @activates msg _ stands =>
      have offline : a.app = .offline := sane (by rw [stands]; rfl)
      cases msg <;> exact offline
  | @dispatches msg =>
      cases msg with
      | dmabufAck accepted => cases accepted <;> cases connecting
      | _ => cases connecting
  | unattached | unpassed => cases a.connecting_refuseGrant.symm.trans connecting
  | readies =>
      simp only [resume, goto] at connecting
      split at connecting
      · assumption
      · cases connecting
  | disarms stands => rcases stands with ⟨-, rfl⟩ | ⟨-, rfl⟩ <;> cases connecting
  | gone | attaches | adopts | stores | arms | spawns => cases connecting

/-- Between two frames the application asks whether it is active, or calls the SDK. -/
theorem appStep_top {ring' : Ring} {choice : Choice}
    (taken : a.appStep ring choice = some (b, ring')) (stands : a.app = .top) :
    ring' = ring ∧ ∃ running dmabufAckState app, b = { a with running, dmabufAckState, app } ∧
      (app = .claim ∧ a.active = true ∨ app = .top ∨ app = .join ∨
        ∃ payload fds, app = .announce payload fds) := by
  simp only [appStep, stands] at taken
  split at taken
  · cases taken
    exact ⟨rfl, _, _, _, rfl, .inr (.inr (.inr ⟨_, _, rfl⟩))⟩
  · split at taken
    · cases taken
      refine ⟨rfl, _, _, _, rfl, ?_⟩
      by_cases active : a.active = true
      · rw [if_pos active]
        exact .inl ⟨rfl, active⟩
      · rw [if_neg active]
        exact .inr (.inl rfl)
    · cases taken
      exact ⟨rfl, _, _, _, rfl, .inr (.inr (.inl rfl))⟩

/-- What one step of the application thread does to the grants of the client. -/
structure Acted (a b : Client) : Prop where
  pending : b.pending.Sublist a.pending
  granted : b.grantedGeneration = a.grantedGeneration
  active : b.active = true → a.active = true
  busy : b.app.busy = true → a.app.busy = true ∨ a.active = true
  control : b.control = a.control ∨ b.control = .done

theorem Acted.of_turn {next : Client} {app : AppPc} (grip : next.pending = a.pending)
    (granted : next.grantedGeneration = a.grantedGeneration)
    (active : next.active = true → a.active = true) (control : next.control = a.control)
    (busy : app.busy = true → a.app.busy = true ∨ a.active = true) : Acted a (next.turn app) where
  pending := by
    change next.pending.Sublist a.pending
    exact grip ▸ List.Sublist.refl _
  granted := granted
  active := active
  busy := busy
  control := .inl control

theorem Acted.of_exit {next : Client} {app : AppPc} (inbox : next.inbox = a.inbox)
    (granted : next.grantedGeneration = a.grantedGeneration) (active : next.active = a.active)
    (ended : app.busy = false) : Acted a (next.exit app) where
  pending := by
    change (next.inbox.filterMap ServerMsg.grant).Sublist a.pending
    rw [inbox]
    exact a.inbox_sublist_pending
  granted := granted
  active still := active ▸ still
  busy acts := by simp [exit, ended] at acts
  control := .inr rfl

/-- Every step of the application thread keeps the stored grant. It may end the context
or clear `active`, and it starts a frame only when it finds `active` set. -/
theorem acted_of_appStep {ring' : Ring} {choice : Choice}
    (taken : a.appStep ring choice = some (b, ring')) : Acted a b := by
  have idles := appStep_top taken
  cases before : a.app <;> simp only [appStep, before] at taken
  case offline | gone | aborted => cases taken
  case top =>
      obtain ⟨-, running, ack, app, rfl, goes⟩ := idles before
      refine ⟨List.Sublist.refl _, rfl, id, fun busy => ?_, .inl rfl⟩
      rcases goes with ⟨-, active⟩ | rfl | rfl | ⟨payload, fds, rfl⟩
      · exact .inr active
      · cases busy
      · cases busy
      · cases busy
  case announce =>
      cases taken
      exact .of_turn rfl rfl id rfl fun busy => by cases busy
  case awaitAck =>
      cases taken
      refine .of_turn rfl rfl id rfl fun busy => ?_
      split at busy <;> cases busy
  case claim =>
      split at taken
      · cases taken
        exact .of_turn rfl rfl id rfl fun _ => .inl (by rw [before]; rfl)
      · cases taken
        exact .of_exit rfl rfl rfl rfl
  case drop =>
      cases taken
      exact .of_turn rfl rfl (fun set => by cases set) rfl fun busy => by cases busy
  case join =>
      split at taken
      · cases taken
        exact .of_turn rfl rfl id rfl fun busy => by cases busy
      · cases taken
  case sendDisconnect =>
      cases taken
      exact .of_exit rfl rfl rfl rfl
  all_goals
    cases taken
    exact .of_turn rfl rfl id rfl fun _ => .inl (by rw [before]; rfl)

theorem sane_of_appStep {ring' : Ring} {choice : Choice} (sane : a.Sane)
    (taken : a.appStep ring choice = some (b, ring')) : b.Sane := by
  have online : a.app ≠ .offline := by
    intro offline
    simp [appStep, offline] at taken
  intro connecting
  rcases (acted_of_appStep taken).control with same | ended
  · rw [same] at connecting
    exact absurd (sane connecting) online
  · rw [ended] at connecting
    cases connecting

end Client

end Wisp

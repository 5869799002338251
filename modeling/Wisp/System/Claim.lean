import Wisp.System.Grants

/-!
# Outstanding claims

`wispc_write_slot` aborts the process when it finds `client_locked` set, and it looks at
neither `active` nor the generation. A claim is given back by the publish that follows
it, unless that publish drops the frame; then it stays until the next eviction clears it.

A claim made in the client's own generation is harmless either way. The check of its
publish succeeds as long as the generation stands, and a client that gave up its frame
because it was told to stop is granted no further frame in this generation. A claim made
after the eviction, on the strength of an earlier `wispc_is_active`, is left in the way
of the client that has been granted the slot since.
-/

namespace Wisp

open Transition System Epoch Effect

namespace World

/-- A call of `wispc_write_slot` finds no claim outstanding. -/
def Unclaimed (w : World) : WorldEvent → Prop
  | .app c _ => (w.clients c).app = .claim → w.ring.clientLocked = -1
  | _ => True

/-- `active` is set, or no grant is about to set it. -/
def Armed (client : Client) : Prop :=
  client.control = .storeActive → client.active = true

/-- `active` is clear, and no grant is about to set it. -/
def Idle (client : Client) : Prop :=
  client.active = false ∧ client.control ≠ .storeActive

/-- A call of `wispc_write_slot` is made in the generation granted to the client, and not
while a grant is half stored and the client still inactive. -/
def ClaimsCurrent (w : World) : WorldEvent → Prop
  | .app c _ => (w.clients c).app = .claim →
      (w.clients c).grantedGeneration = w.ring.generation ∧ Armed (w.clients c)
  | _ => True

/-- How far the frame has got for which a claim is outstanding. Its publish will pass the
check, or has found the client inactive; such a client claims nothing more. -/
def Accounted (generation : UInt32) (client : Client) : Prop :=
  match client.app with
  | .render _ | .publish _ | .compare _ | .storeFrameId _ _ | .storeWriteTs _ _
  | .publishLocked _ _ => Armed client
  | .ringLoaded _ g | .grantedLoaded _ g => g = generation ∧ Armed client
  | .top | .announce _ _ | .awaitAck | .join | .sendDisconnect => Idle client
  | .gone | .aborted => True
  | .offline | .claim | .drop | .signal => False

theorem Accounted.mono {generation : UInt32} {a b : Client} (h : Accounted generation a)
    (app : b.app = a.app) (armed : Armed a → Armed b) (idle : Idle a → Idle b) :
    Accounted generation b := by
  cases stands : a.app <;> simp only [Accounted, app, stands] at h ⊢
  case ringLoaded | grantedLoaded => exact ⟨h.1, armed h.2⟩
  case top | announce | awaitAck | join | sendDisconnect => exact idle h
  all_goals exact armed h

/-- The client that owns the outstanding claim holds the current grant. -/
structure Owner (l : Ledger Int) (c : Nat) (client : Client) : Prop where
  granted : client.grantedGeneration = l.current
  issued : ((c : Int), l.current) ∈ l.issued
  settled : client.pending = []
  accounted : Accounted l.current client

/-- An outstanding claim has an owner. -/
def Owned (l : Ledger Int) (w : World) : Prop :=
  w.ring.clientLocked ≠ -1 → ∃ c, Owner l c (w.clients c)

namespace Owner

variable {l : Ledger Int} {c : Nat} {a b : Client} {ring ring' : Ring} {choice : Choice}

theorem quiet (h : Owner l c a) (step : Client.Quiet a b) : Owner l c b where
  granted := step.granted.trans h.granted
  issued := h.issued
  settled := step.pending.trans h.settled
  accounted := by
    refine h.accounted.mono step.app ?_ ?_
    · intro armed stores
      rw [step.active]
      exact armed (step.control ▸ stores)
    · rintro ⟨clear, other⟩
      exact ⟨step.active.trans clear, step.control ▸ other⟩

/-- The control thread of the owner has no new grant to store, so it can only finish
setting `active`, or clear it. -/
theorem handled (h : Owner l c a) (step : Client.Handled a b) : Owner l c b := by
  cases step with
  | keep pending granted active before after app =>
      have settled : b.pending = [] := List.sublist_nil.mp (h.settled ▸ pending)
      refine ⟨granted.trans h.granted, h.issued, settled, ?_⟩
      rcases app with same | ⟨offline, -⟩
      · refine h.accounted.mono same (fun _ stores => absurd stores after) ?_
        exact fun idle => ⟨active.trans idle.1, after⟩
      · have := h.accounted
        simp [Accounted, offline] at this
  | adopt pending =>
      rw [h.settled] at pending
      cases pending
  | arm pending granted active before after app =>
      refine ⟨granted.trans h.granted, h.issued, pending.trans h.settled, ?_⟩
      refine h.accounted.mono app (fun _ _ => active) ?_
      exact fun idle => absurd before idle.2
  | clear pending granted active before after app =>
      refine ⟨granted.trans h.granted, h.issued, pending.trans h.settled, ?_⟩
      exact h.accounted.mono app (fun _ stores => absurd stores after) fun _ => ⟨active, after⟩

/-- The owner's own steps either give the claim back or keep it accounted for. -/
theorem acted (h : Owner l c a) (current : ring.generation = l.current)
    (stepped : a.appStep ring choice = some (b, ring')) :
    ring'.clientLocked = -1 ∨ Owner l c b := by
  have step := Client.acted_of_appStep stepped
  have idles := Client.appStep_top stepped
  have accounted := h.accounted
  have settled : b.pending = [] := List.sublist_nil.mp (h.settled ▸ step.pending)
  have still (known : Accounted l.current b) : ring'.clientLocked = -1 ∨ Owner l c b :=
    .inr ⟨step.granted.trans h.granted, h.issued, settled, known⟩
  cases stands : a.app <;> simp only [Client.appStep, stands] at stepped <;>
    simp only [Accounted, stands] at accounted
  case publishLocked =>
      cases stepped
      exact .inl rfl
  case render | storeFrameId | storeWriteTs =>
      cases stepped
      exact still accounted
  case publish idx =>
      cases stepped
      apply still
      by_cases active : a.active = true
      · rw [if_pos active]
        exact accounted
      · rw [if_neg active]
        exact ⟨Bool.eq_false_iff.mpr active, fun stores => active (accounted stores)⟩
  case compare idx =>
      cases stepped
      apply still
      cases choice.left with
      | true => exact ⟨current, accounted⟩
      | false => exact ⟨h.granted, accounted⟩
  case ringLoaded idx g =>
      cases stepped
      apply still
      rw [if_pos (accounted.1.trans h.granted.symm)]
      exact accounted.2
  case grantedLoaded idx g =>
      cases stepped
      apply still
      rw [if_pos (current.trans accounted.1.symm)]
      exact accounted.2
  case top =>
      obtain ⟨-, running, ack, app, rfl, goes⟩ := idles stands
      apply still
      rcases goes with ⟨-, active⟩ | rfl | rfl | ⟨payload, fds, rfl⟩
      · exact absurd active (Bool.eq_false_iff.mp accounted.1)
      · exact accounted
      · exact accounted
      · exact accounted
  case announce =>
      cases stepped
      exact still accounted
  case awaitAck =>
      cases stepped
      apply still
      by_cases returns : a.dmabufAckState ≠ 0 ∨ choice.left = true
      · rw [if_pos returns]
        exact accounted
      · rw [if_neg returns]
        exact accounted
  case join =>
      split at stepped
      · cases stepped
        exact still accounted
      · cases stepped
  case sendDisconnect =>
      cases stepped
      exact still trivial
  all_goals cases stepped

end Owner

section Steps

variable {l : Ledger Int} {w next : World} {c d : Nat} {choice : Choice}

/-- A client that claims in its own generation finds no claim outstanding: the owner of
one would be the client itself, and it stands elsewhere. -/
theorem unclaimed_of_owned (sound : Sound l w) (owned : Owned l w) {ev : WorldEvent}
    (claims : ClaimsCurrent w ev) : Unclaimed w ev := by
  cases ev with
  | app c choice =>
      intro stands
      by_contra claimed
      obtain ⟨d, owner⟩ := owned claimed
      obtain ⟨granted, -⟩ := claims stands
      have busy : (w.clients c).app.busy = true := by
        rw [stands]
        rfl
      have held := (sound.entitled c).held (.inr (.inr busy))
      rw [granted, sound.current] at held
      have same : c = d := Int.ofNat_inj.mp (sound.ordered.owner_unique held owner.issued)
      have accounted := owner.accounted
      subst same
      simp [Accounted, stands] at accounted
  | _ => trivial

/-- A successful claim makes its client the owner. -/
theorem owner_of_claim (sound : Sound l w) (few : l.bumps < 2 ^ 32)
    (stands : (w.clients c).app = .claim)
    (granted : (w.clients c).grantedGeneration = w.ring.generation)
    (armed : Armed (w.clients c)) (idx : Buf) :
    Owner l c ((w.clients c).turn (.render idx)) := by
  have entitled := sound.entitled c
  have seasoned : (w.clients c).Seasoned := by
    refine .inr (.inr ?_)
    rw [stands]
    rfl
  rw [sound.current] at granted
  refine ⟨granted, granted ▸ entitled.held seasoned, ?_, armed⟩
  refine List.eq_nil_iff_forall_not_mem.mpr fun g member => ?_
  have later := entitled.behind seasoned g member
  have reached := sound.ordered.past _ (entitled.pending g member)
  rw [granted, Ledger.age_current few] at later
  exact absurd later (Nat.not_lt.mpr reached)

/-- Where the ring keeps the claim and the owner keeps its account, the claim stays
owned. -/
theorem Owned.mono {l' : Ledger Int} (owned : Owned l w)
    (clientLocked : next.ring.clientLocked ≠ -1 → w.ring.clientLocked ≠ -1)
    (owner : ∀ c, Owner l c (w.clients c) → Owner l' c (next.clients c)) : Owned l' next := by
  intro claimed
  obtain ⟨c, owns⟩ := owned (clientLocked claimed)
  exact ⟨c, owner c owns⟩

/-- Apart from a claim, a step of a producer leaves `client_locked` alone or clears it. -/
theorem appStep_clientLocked {a b : Client} {ring ring' : Ring} (other : a.app ≠ .claim)
    (stepped : a.appStep ring choice = some (b, ring')) (claimed : ring'.clientLocked ≠ -1) :
    ring.clientLocked ≠ -1 := by
  have idles := Client.appStep_top stepped
  cases stands : a.app <;> simp only [Client.appStep, stands] at stepped
  case claim => exact absurd stands other
  case offline | gone | aborted => cases stepped
  case top => exact (idles stands).1 ▸ claimed
  case join =>
      split at stepped <;> cases stepped
      exact claimed
  case publishLocked =>
      cases stepped
      exact absurd rfl claimed
  all_goals
    cases stepped
    exact claimed

/-- A claim that finds no other outstanding succeeds. -/
theorem appStep_claim {a b : Client} {ring ring' : Ring} (stands : a.app = .claim)
    (unclaimed : ring.clientLocked = -1) (stepped : a.appStep ring choice = some (b, ring')) :
    ∃ idx, b = a.turn (.render idx) := by
  simp only [Client.appStep, stands] at stepped
  split at stepped
  · cases stepped
    exact ⟨_, rfl⟩
  · rename_i aborts
    exact absurd unclaimed (ring.writeSlot_eq_none_iff.mp aborts)

/-- Only a claim can abort. -/
theorem appStep_unaborted {client : Client} {ring : Ring} (unclaimed : Unclaimed w (.app c choice))
    (stepped : (w.clients c).appStep w.ring choice = some (client, ring)) :
    client.app ≠ .aborted := by
  have idles := Client.appStep_top stepped
  cases stands : (w.clients c).app
  case claim =>
      obtain ⟨idx, rfl⟩ := appStep_claim stands (unclaimed stands) stepped
      simp [Client.turn]
  all_goals simp only [Client.appStep, stands] at stepped
  case offline | gone | aborted => cases stepped
  case top =>
      obtain ⟨-, running, ack, app, rfl, goes⟩ := idles stands
      rcases goes with ⟨rfl, -⟩ | rfl | rfl | ⟨payload, fds, rfl⟩ <;> simp
  case join =>
      split at stepped <;> cases stepped
      simp [Client.turn]
  case publish | compare | ringLoaded | grantedLoaded | awaitAck =>
      cases stepped
      simp only [Client.turn]
      split <;> simp
  all_goals
    cases stepped
    simp [Client.turn, Client.exit]

theorem owned_app (sound : Sound l w) (few : l.bumps < 2 ^ 32) (owned : Owned l w)
    (claims : ClaimsCurrent w (.app c choice)) {client : Client} {ring : Ring}
    (stepped : (w.clients c).appStep w.ring choice = some (client, ring)) :
    Owned l ((w.setClient c client).setRing ring) := by
  intro claimed
  change ring.clientLocked ≠ -1 at claimed
  by_cases stands : (w.clients c).app = .claim
  · obtain ⟨idx, rfl⟩ := appStep_claim stands (unclaimed_of_owned sound owned claims stands) stepped
    obtain ⟨granted, armed⟩ := claims stands
    refine ⟨c, ?_⟩
    rw [setRing_clients, setClient_same]
    exact owner_of_claim sound few stands granted armed idx
  · obtain ⟨d, owner⟩ := owned (appStep_clientLocked stands stepped claimed)
    refine ⟨d, ?_⟩
    rw [setRing_clients]
    by_cases same : d = c
    · subst same
      rw [setClient_same]
      exact (owner.acted sound.current stepped).resolve_left claimed
    · rw [setClient_other _ _ _ same]
      exact owner

/-- The step lemma: outstanding claims stay owned, whatever thread moves. -/
theorem owned_step {ev : WorldEvent} (sound : Sound l w) (moves : Moves w ev next)
    (few : (note l w ev).bumps < 2 ^ 32) (claims : ClaimsCurrent w ev) (owned : Owned l w) :
    Owned (note l w ev) next := by
  have few' : l.bumps < 2 ^ 32 := Nat.lt_of_le_of_lt (bumps_le_note l w ev) few
  cases moves with
  | background noted stamped quiet generation clientLocked =>
      rw [noted]
      exact owned.mono (clientLocked ▸ id) fun c owner => owner.quiet (quiet c)
  | evict todo ring clients =>
      intro claimed
      rw [ring] at claimed
      exact absurd rfl claimed
  | grant todo ring clients =>
      -- The generation of an owned claim has been granted, so this grant cannot go out.
      intro claimed
      obtain ⟨-, unissued, -⟩ := sound.fresh todo
      obtain ⟨c, owner⟩ := owned (ring ▸ claimed)
      exact absurd ⟨_, owner.issued, rfl⟩ unissued
  | @control d _ _ client stepped =>
      have handled := Client.handled_of_controlStep (sound.entitled d).sane stepped
      refine owned.mono id fun c owner => ?_
      exact forall_setClient (P := fun c client => Owner l c (w.clients c) → Owner l c client)
        (fun owner => owner.handled handled) (fun _ _ => id) c owner
  | @app d _ _ _ stepped => exact owned_app sound few' owned claims stepped
  | @crash d =>
      refine owned.mono id fun c owner => ?_
      refine forall_setClient (P := fun c client => Owner l c (w.clients c) → Owner l c client)
        (fun owner => ?_) (fun _ _ => id) c owner
      have settled : ((w.clients d).exit .gone).pending = [] :=
        List.sublist_nil.mp (owner.settled ▸ (w.clients d).inbox_sublist_pending)
      exact ⟨owner.granted, owner.issued, settled, trivial⟩

end Steps

/-- No client has called `abort()`. -/
def Unaborted (w : World) : Prop :=
  ∀ c, (w.clients c).app ≠ .aborted

theorem unaborted_step {w next : World} {ev : WorldEvent} {l : Ledger Int} (sound : Sound l w)
    (moves : Moves w ev next) (unclaimed : Unclaimed w ev) (unaborted : Unaborted w) :
    Unaborted next := by
  have changed {c : Nat} {client : Client} (fine : client.app ≠ .aborted) :
      Unaborted (w.setClient c client) :=
    forall_setClient (P := fun _ client => client.app ≠ .aborted) fine fun d _ => unaborted d
  cases moves with
  | background noted stamped quiet =>
      intro c
      rw [(quiet c).app]
      exact unaborted c
  | evict todo ring clients =>
      intro c
      rw [clients]
      exact unaborted c
  | grant todo ring clients =>
      intro c
      rw [clients]
      refine forall_atPeer (P := fun _ client => client.app ≠ .aborted) unaborted ?_ c
      intro d _
      unfold Client.deliver
      split <;> exact unaborted d
  | @control c _ _ _ stepped =>
      apply changed
      cases Client.handled_of_controlStep (sound.entitled c).sane stepped with
      | keep _ _ _ _ _ app =>
          rcases app with same | ⟨-, top | gone⟩
          · exact same ▸ unaborted c
          · simp [top]
          · simp [gone]
      | adopt _ _ _ app | arm _ _ _ _ _ app | clear _ _ _ _ _ app => exact app ▸ unaborted c
  | @app c _ _ _ stepped =>
      intro d
      exact changed (appStep_unaborted unclaimed stepped) d
  | crash => exact changed (by simp [Client.exit])

theorem Booted.unclaimed {start : World} (booted : Booted start) :
    start.ring.clientLocked = -1 := by
  obtain ⟨generation, frameFd, dp, modes, initialised⟩ := booted.server
  unfold ControlPlane.init at initialised
  split at initialised
  · cases initialised
  · have ring : start.ring = start.server.ring := congrArg Display.ring booted.display
    rw [ring, ← Option.some.inj initialised]
    rfl

/-- In every interleaving in which each claim is made in the client's own generation, no
claim finds another one outstanding and no client aborts. -/
theorem unaborted_of_run {start finish : World} {trace : List (World × WorldEvent)}
    (booted : Booted start) (run : world.Run start trace finish)
    (few : (ledger start.ring.generation trace).bumps < 2 ^ 32)
    (claims : Meets ClaimsCurrent trace) : Meets Unclaimed trace ∧ Unaborted finish := by
  have initial : Owned (.opened start.ring.generation) start ∧ Unaborted start := by
    refine ⟨fun claimed => absurd booted.unclaimed claimed, fun c => ?_⟩
    obtain ⟨clientId, modes, fresh⟩ := booted.clients c
    simp [fresh, Client.fresh]
  have preserved (l : Ledger Int) (w : World) (ev : WorldEvent) (next : World) (sound : Sound l w)
      (known : Owned l w ∧ Unaborted w) (claims : ClaimsCurrent w ev) (moves : Moves w ev next)
      (few : (note l w ev).bumps < 2 ^ 32) : Owned (note l w ev) next ∧ Unaborted next :=
    ⟨owned_step sound moves few claims known.1,
      unaborted_step sound moves (unclaimed_of_owned sound known.1 claims) known.2⟩
  constructor
  · refine meets_of_run booted run few claims initial preserved ?_
    intro l w ev sound known claims _
    exact unclaimed_of_owned sound known.1 claims
  · exact (invariant_of_run booted run few claims initial preserved).2

instance (client : Client) : Decidable (Armed client) :=
  inferInstanceAs (Decidable (_ → _))

instance (w : World) (ev : WorldEvent) : Decidable (ClaimsCurrent w ev) :=
  match ev with
  | .app _ _ => inferInstanceAs (Decidable (_ → _ ∧ Armed _))
  | .serve _ | .effect | .control _ _ _ | .crash _ | .checkout | .release => isTrue trivial

instance (w : World) (ev : WorldEvent) : Decidable (Unclaimed w ev) :=
  match ev with
  | .app _ _ => inferInstanceAs (Decidable (_ → _))
  | .serve _ | .effect | .control _ _ _ | .crash _ | .checkout | .release => isTrue trivial

/-- Both clients of a succession publish a frame, each in its own generation. -/
theorem unaborted_of_run_succession :
    ∃ trace finish, world.Run studio trace finish ∧
      trace.map Prod.snd = opening ++ apps 0 10 ++ succession ++ apps 1 10 ∧
      Meets Unclaimed trace ∧ Unaborted finish := by
  refine Demonstrates.exists_run
    (P := fun trace _ => (ledger studio.ring.generation trace).bumps < 2 ^ 32 ∧
      Meets ClaimsCurrent trace) (by decide +kernel) ?_
  rintro trace finish run ⟨few, claims⟩
  exact unaborted_of_run booted_studio run few claims

/-- The first client has found itself active, but claims its slot only after the second
one has been granted the ring. The second one aborts, with its grant current. -/
theorem not_unaborted_of_late_claim :
    ∃ trace finish, world.Run studio trace finish ∧
      trace.map Prod.snd = opening ++ apps 0 1 ++ succession ++ apps 0 1 ++ apps 1 2 ∧
      ¬ Meets Unclaimed trace ∧ (finish.clients 1).app = .aborted ∧ MayPublish finish 1 :=
  Demonstrates.run (by decide +kernel)

end World

end Wisp

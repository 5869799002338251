import Mathlib.Data.List.Basic
import Wisp.System.Verdict

/-!
# A session behind its descriptor

The client at the other end of a connection knows neither slots nor events. For it, a
handler of the control thread is an exchange: the session behind the descriptor changes its
state, and some messages are sent to the descriptor. Slots and descriptors correspond to
each other as long as no descriptor is in the table twice.
-/

namespace Wisp

open Arbiter

namespace Arbiter.Step

variable {ι : Type*} [DecidableEq ι] {a a' : Arbiter ι} {cause : Cause ι} {i : ι}

/-- A session goes away only by its own CONNECT or its own end. -/
theorem status_ne_none (step : a.Step cause a') (present : a.status i ≠ none)
    (connects : cause ≠ .connect i) (drops : ∀ next, cause ≠ .drop i next) :
    a'.status i ≠ none := by
  have moved (j : ι) (state : SessionState) : (a.quiet.move j (some state)).status i ≠ none := by
    rw [move_status]
    split
    · simp
    · exact present
  have handed {b : Arbiter ι} (still : b.status i ≠ none) (next : Option ι) :
      (b.handOver next).status i ≠ none := by
    rw [handOver_status]
    split
    · simp
    · exact still
  have left {j : ι} (other : i ≠ j) : (a.quiet.leave j).status i ≠ none := by
    rw [leave_status, if_neg other]
    exact present
  cases step with
  | ignored | unnamed | answered | parked => exact present
  | @joined j =>
      rw [join_status]
      split
      · simp
      · exact present
  | accepted | queued => exact moved _ _
  | refused => exact left fun same => connects (congrArg Cause.connect same.symm)
  | left => exact left fun same => drops _ (congrArg (Cause.drop · _) same.symm)
  | granted | switched => exact handed (b := a.quiet) present (some _)
  | @activated j =>
      rw [activate_status]
      split
      · simp
      · exact present
  | @evicted h t =>
      show (a.quiet.evict h t).status i ≠ none
      rw [evict_status]
      split
      · simp
      · exact present
  | declined => exact handed (moved _ _) _
  | @stopped h =>
      exact handed (b := (a.quiet.move h _).clearPending) (moved h _) _
  | @expired h =>
      exact handed (b := (a.quiet.move h _).clearPending) (moved h _) _
  | @timedOut h => exact handed (b := (a.quiet.move h _).bump) (moved h _) _
  | @dropped h =>
      refine handed (b := (a.quiet.leave h).clearPending) (left fun same => ?_) _
      exact drops _ (congrArg (Cause.drop · _) same.symm)

/-- READY_FOR_RT ends the warm-up. -/
theorem status_of_ready (step : a.Step (.ready i) a') : a'.status i ≠ some .grantedWarmup := by
  cases step with
  | ignored ignores => exact ignores
  | activated =>
      rw [activate_status, if_pos rfl]
      simp

end Arbiter.Step

namespace SessionTable

/-- The state of the session behind a descriptor. -/
def session (table : SessionTable) (fd : Int) : Option SessionState :=
  ((List.finRange sessionMaxClients).find? fun i =>
    (table.slots i).inUse && (table.slots i).ctrlFd == fd).map fun i => (table.slots i).state

/-- No descriptor belongs to two sessions. -/
def Distinct (table : SessionTable) : Prop :=
  ∀ i j, (table.slots i).inUse = true → (table.slots j).inUse = true →
    (table.slots i).ctrlFd = (table.slots j).ctrlFd → i = j

variable {table : SessionTable} {fd : Int} {i : Slot}

theorem slot_of_session {state : SessionState} (found : table.session fd = some state) :
    ∃ i, (table.slots i).inUse = true ∧ (table.slots i).ctrlFd = fd ∧
      (table.slots i).state = state := by
  obtain ⟨i, here, same⟩ := Option.map_eq_some_iff.mp found
  have serves := List.find?_some here
  simp only [Bool.and_eq_true, beq_iff_eq] at serves
  exact ⟨i, serves.1, serves.2, same⟩

theorem session_eq_none :
    table.session fd = none ↔ ∀ i, (table.slots i).inUse = true → (table.slots i).ctrlFd ≠ fd := by
  simp [session]

theorem session_of_slot (distinct : table.Distinct) (inUse : (table.slots i).inUse = true)
    (same : (table.slots i).ctrlFd = fd) : table.session fd = some (table.slots i).state := by
  cases found : table.session fd with
  | none => exact absurd same (session_eq_none.mp found i inUse)
  | some state =>
      obtain ⟨j, used, ctrlFd, rfl⟩ := slot_of_session found
      rw [distinct i j inUse used (same.trans ctrlFd.symm)]

section Arrival

variable {idx : Slot} {session : Session} (fresh : table.session session.ctrlFd = none)

include fresh

/-- A new session with a new descriptor. -/
theorem Distinct.setSlot (distinct : table.Distinct) : (table.setSlot idx session).Distinct := by
  have nobody := session_eq_none.mp fresh
  intro i j usedI usedJ same
  simp only [SessionTable.setSlot, Function.update_apply] at usedI usedJ same
  split at usedI <;> split at usedJ
  · rename_i newI newJ
    rw [newI, newJ]
  · rename_i newI oldJ
    rw [if_pos newI, if_neg oldJ] at same
    exact absurd same.symm (nobody j usedJ)
  · rename_i oldI newJ
    rw [if_neg oldI, if_pos newJ] at same
    exact absurd same (nobody i usedI)
  · rename_i oldI oldJ
    rw [if_neg oldI, if_neg oldJ] at same
    exact distinct i j usedI usedJ same

/-- The other descriptors keep their sessions. -/
theorem session_setSlot_of_ne (distinct : table.Distinct)
    (unused : (table.slots idx).inUse = false) (other : fd ≠ session.ctrlFd) :
    (table.setSlot idx session).session fd = table.session fd := by
  cases found : table.session fd with
  | none =>
      have nobody := session_eq_none.mp found
      refine session_eq_none.mpr fun j used => ?_
      simp only [SessionTable.setSlot, Function.update_apply] at used ⊢
      split at used
      · rename_i new
        rw [if_pos new]
        exact other.symm
      · rename_i old
        rw [if_neg old]
        exact nobody j used
  | some state =>
      obtain ⟨j, used, same, rfl⟩ := slot_of_session found
      have old : j ≠ idx := by
        rintro rfl
        rw [unused] at used
        cases used
      have kept : (table.setSlot idx session).slots j = table.slots j :=
        Function.update_of_ne old _ _
      rw [← kept] at used same ⊢
      exact session_of_slot (distinct.setSlot fresh) used same

end Arrival

end SessionTable

/-- The message that an effect sends to a descriptor. -/
def Effect.sentTo (fd : Int) : Effect → Option ServerMsg
  | .send _ fd' msg => if fd' = fd then some msg else none
  | _ => none

/-- The session behind a descriptor, if there is one, has been granted the RT slot. -/
def granted (state : Option SessionState) : Bool :=
  state.any SessionState.granted

/-- A session goes from one state to another, and these messages are sent to it: they say
what becomes of the RT slot, and no warm-up begins without a grant. -/
structure Exchange (before : Option SessionState) (sent : List ServerMsg)
    (after : Option SessionState) : Prop where
  verdict : ∃ known, sent.foldlM ServerMsg.verdict (granted before) = some known ∧
    (after ≠ none → known = granted after)
  warm : after = some .grantedWarmup →
    before = some .grantedWarmup ∨ ∃ msg ∈ sent, msg.grant ≠ none

theorem Exchange.refl (state : Option SessionState) : Exchange state [] state :=
  ⟨⟨_, rfl, fun _ => rfl⟩, .inl⟩

namespace ControlPlane

/-- A handler takes no new connection and sends to none but the sessions in the table. -/
structure Keeps (cp cp' : ControlPlane) : Prop where
  kept : ∀ j, (cp'.table.slots j).inUse = true →
    (cp.table.slots j).inUse = true ∧ (cp'.table.slots j).ctrlFd = (cp.table.slots j).ctrlFd
  addressed : ∀ j fd msg, .send j fd msg ∈ cp'.out →
    (cp.table.slots j).inUse = true ∧ fd = (cp.table.slots j).ctrlFd

namespace Keeps

variable {cp cp' : ControlPlane} {fd : Int} {i : Slot}

theorem distinct (keeps : Keeps cp cp') (distinct : cp.table.Distinct) : cp'.table.Distinct := by
  intro i j usedI usedJ same
  obtain ⟨beforeI, sameI⟩ := keeps.kept i usedI
  obtain ⟨beforeJ, sameJ⟩ := keeps.kept j usedJ
  exact distinct i j beforeI beforeJ (sameI.symm.trans (same.trans sameJ))

/-- A connection that is not in the table hears nothing. -/
theorem absent (keeps : Keeps cp cp') (missing : cp.table.session fd = none) :
    cp'.out.filterMap (Effect.sentTo fd) = [] ∧ cp'.table.session fd = none := by
  have nobody := SessionTable.session_eq_none.mp missing
  constructor
  · rw [List.filterMap_eq_nil_iff]
    intro effect member
    cases effect with
    | send j fd' msg =>
        obtain ⟨inUse, rfl⟩ := keeps.addressed j fd' msg member
        exact if_neg (nobody j inUse)
    | _ => rfl
  · refine SessionTable.session_eq_none.mpr fun j inUse => ?_
    obtain ⟨before, same⟩ := keeps.kept j inUse
    rw [same]
    exact nobody j before

/-- The session in a slot goes on behind the same descriptor, or is gone. -/
theorem session (keeps : Keeps cp cp') (distinct : cp.table.Distinct)
    (inUse : (cp.table.slots i).inUse = true) :
    cp'.table.session (cp.table.slots i).ctrlFd =
      if (cp'.table.slots i).inUse then some (cp'.table.slots i).state else none := by
  split
  · rename_i used
    exact SessionTable.session_of_slot (keeps.distinct distinct) used (keeps.kept i used).2
  · rename_i unused
    refine SessionTable.session_eq_none.mpr fun j used same => unused ?_
    obtain ⟨before, kept⟩ := keeps.kept j used
    rwa [← distinct j i before inUse (kept.symm.trans same)]

/-- What is sent to the slot is what is sent to its descriptor. -/
theorem sentTo (keeps : Keeps cp cp') (distinct : cp.table.Distinct)
    (inUse : (cp.table.slots i).inUse = true) :
    cp'.out.filterMap (Effect.sentTo (cp.table.slots i).ctrlFd) =
      cp'.out.filterMap (Effect.told i) := by
  apply List.filterMap_congr
  intro effect member
  cases effect with
  | send j fd msg =>
      obtain ⟨used, rfl⟩ := keeps.addressed j fd msg member
      simp only [Effect.sentTo, Effect.told]
      by_cases same : j = i
      · rw [if_pos same, if_pos (same ▸ rfl)]
      · rw [if_neg same, if_neg fun equal => same (distinct j i used inUse equal)]
  | _ => rfl

end Keeps

/-- Every event but an accepted connection. -/
theorem keeps_handle {cp : ControlPlane} {ev : Event} (coh : cp.arbiter.Coherent)
    (on : ev.enabled cp = true) (settled : ∀ fd, ev ≠ .accept fd) (declines : ¬ Event.Declines ev) :
    Keeps cp (cp.quiesce.handle ev) := by
  have told {j : Slot} (connects : ¬ Event.Connects j ev) :
      ∃ effects, Telling j cp.quiesce (cp.quiesce.handle ev) effects :=
    tells_handle coh on settled connects declines
  constructor
  · intro j used
    by_cases connects : Event.Connects j ev
    · obtain ⟨payload, fds, clock, rfl⟩ := connects
      exact ⟨on, ((answered_handleConnect cp.quiesce j _ clock).negotiated used).1⟩
    · obtain ⟨effects, telling⟩ := told connects
      exact telling.kept used
  · intro j fd msg sent
    by_cases connects : Event.Connects j ev
    · obtain ⟨payload, fds, clock, rfl⟩ := connects
      obtain ⟨reply, rest, out, -, silent⟩ :=
        (answered_handleConnect cp.quiesce j (connectOf payload) clock).reply
      change .send j fd msg ∈ (cp.quiesce.handleConnect j (connectOf payload) clock).out at sent
      rw [out] at sent
      rcases List.mem_cons.mp sent with same | later
      · cases same
        exact ⟨on, rfl⟩
      · exact absurd later (silent j fd msg)
    · obtain ⟨effects, telling⟩ := told connects
      rw [telling.out] at sent
      exact telling.addressed fd msg sent

/-- The event ends the connection in the slot. -/
def Event.Drops (i : Slot) (ev : Event) : Prop :=
  (∃ clock, ev = .hangup i clock) ∨ (∃ clock, ev = .readable i .closed clock) ∨
    ∃ payload fds clock, ev = .readable i (.message MsgKind.disconnect.toByte payload fds) clock

section Causes

variable {cp : ControlPlane} {ev : Event} {i : Slot}

theorem connects_of_cause (means : cp.cause ev = .connect i) : Event.Connects i ev := by
  cases ev with
  | readable idx received clock =>
      cases received with
      | message type payload fds =>
          simp only [cause] at means
          split at means <;> cases means
          rename_i named
          rw [MsgKind.toByte_of_ofByte named]
          exact ⟨_, _, _, rfl⟩
      | closed | oversized => cases means
  | switch id clock =>
      simp only [cause] at means
      split at means <;> cases means
  | tick now clock =>
      simp only [cause] at means
      split at means <;> cases means
  | _ => cases means

theorem drops_of_cause {next : Option Slot} (means : cp.cause ev = .drop i next) :
    Event.Drops i ev := by
  cases ev with
  | hangup idx clock =>
      cases means
      exact .inl ⟨_, rfl⟩
  | readable idx received clock =>
      cases received with
      | closed =>
          cases means
          exact .inr (.inl ⟨_, rfl⟩)
      | oversized => cases means
      | message type payload fds =>
          simp only [cause] at means
          split at means <;> cases means
          rename_i named
          rw [MsgKind.toByte_of_ofByte named]
          exact .inr (.inr ⟨_, _, _, rfl⟩)
  | switch id clock =>
      simp only [cause] at means
      split at means <;> cases means
  | tick now clock =>
      simp only [cause] at means
      split at means <;> cases means
  | _ => cases means

end Causes

section Exchanges

variable {cp : ControlPlane} {ev : Event} {fd : Int}
variable (coh : cp.arbiter.Coherent) (on : ev.enabled cp = true) (settled : ∀ fd, ev ≠ .accept fd)
variable (declines : ¬ Event.Declines ev) (distinct : cp.table.Distinct)

include coh on settled declines distinct

/-- Any handler, seen from a connection that is not itself at its CONNECT. A session that
has not sent its CONNECT yet is granted nothing. -/
theorem exchange_handle
    (foreign : ∀ i, (cp.table.slots i).ctrlFd = fd → ¬ Event.Connects i ev) :
    Exchange (cp.table.session fd)
        ((cp.quiesce.handle ev).out.filterMap (Effect.sentTo fd))
        ((cp.quiesce.handle ev).table.session fd) ∧
      (cp.table.session fd = some .connected →
        (∀ msg ∈ (cp.quiesce.handle ev).out.filterMap (Effect.sentTo fd), msg.grant = none) ∧
          ((cp.quiesce.handle ev).table.session fd = none ∨
            (cp.quiesce.handle ev).table.session fd = some .connected)) := by
  have keeps := keeps_handle coh on settled declines
  cases found : cp.table.session fd with
  | none =>
      obtain ⟨nothing, gone⟩ := keeps.absent found
      rw [nothing, gone]
      exact ⟨.refl none, fun connected => by cases connected⟩
  | some state =>
      obtain ⟨i, inUse, rfl, rfl⟩ := SessionTable.slot_of_session found
      obtain ⟨effects, telling⟩ := tells_handle coh on settled (foreign i rfl) declines
      have out : (cp.quiesce.handle ev).out = effects := telling.out
      rw [keeps.session distinct inUse, keeps.sentTo distinct inUse, out]
      obtain ⟨known, told, agrees⟩ := telling.verdict
      refine ⟨⟨⟨known, told, ?_⟩, ?_⟩, ?_⟩
      · intro present
        split at present
        · rename_i used
          rw [if_pos used]
          exact agrees used
        · exact absurd rfl present
      · intro warm
        split at warm
        · rename_i used
          rcases telling.warm used (Option.some.inj warm) with before | told
          · exact .inl (congrArg some before)
          · exact .inr told
        · cases warm
      · intro connected
        obtain ⟨quiet, stays⟩ := telling.mute (Option.some.inj connected)
        refine ⟨quiet, ?_⟩
        split
        · exact .inr (congrArg some (stays ‹_›))
        · exact .inl rfl

end Exchanges

section Own

variable {cp : ControlPlane} {ev : Event} {i : Slot}
variable (coh : cp.arbiter.Coherent) (on : ev.enabled cp = true)
variable (once : ∀ i, Event.Connects i ev → (cp.table.slots i).state = .connected)

include coh on once

/-- The handler is a step of the arbiter: CONNECT is handled only on a session that has sent
none before. -/
theorem step_of_once : cp.arbiter.Step (cp.cause ev) (cp.quiesce.handle ev).arbiter := by
  refine step_refines coh on fun i means => ?_
  have connected := once i (connects_of_cause means)
  constructor
  · intro active
    rw [(cp.arbiter_status_eq_some.mp active).2] at connected
    cases connected
  · intro evicting
    rw [(cp.arbiter_status_eq_some.mp evicting).2] at connected
    cases connected

/-- A session stays in the table until its own end. -/
theorem inUse_handle (inUse : (cp.table.slots i).inUse = true) (connects : ¬ Event.Connects i ev)
    (drops : ¬ Event.Drops i ev) : ((cp.quiesce.handle ev).table.slots i).inUse = true := by
  have present : cp.arbiter.status i ≠ none := by simp [cp.arbiter_status_of_inUse inUse]
  have still := (step_of_once coh on once).status_ne_none present
    (fun means => connects (connects_of_cause means)) fun next means => drops (drops_of_cause means)
  rw [ne_eq, arbiter_status_eq_none, Bool.not_eq_false] at still
  exact still

/-- The same, seen from the connection. -/
theorem session_handle_ne_none {fd : Int} (distinct : cp.table.Distinct)
    (settled : ∀ fd, ev ≠ .accept fd) (declines : ¬ Event.Declines ev)
    (foreign : ∀ i, (cp.table.slots i).ctrlFd = fd → ¬ Event.Connects i ev ∧ ¬ Event.Drops i ev)
    (present : cp.table.session fd ≠ none) : (cp.quiesce.handle ev).table.session fd ≠ none := by
  have keeps := keeps_handle coh on settled declines
  obtain ⟨state, found⟩ := Option.ne_none_iff_exists'.mp present
  obtain ⟨i, inUse, rfl, -⟩ := SessionTable.slot_of_session found
  obtain ⟨connects, drops⟩ := foreign i rfl
  rw [keeps.session distinct inUse, if_pos (inUse_handle coh on once inUse connects drops)]
  simp

/-- READY_FOR_RT ends the warm-up. -/
theorem state_of_ready {payload : List UInt8} {fds : List Int} {clock : Timespec}
    (ready : ev = .readable i (.message MsgKind.readyForRt.toByte payload fds) clock)
    (inUse : ((cp.quiesce.handle ev).table.slots i).inUse = true) :
    ((cp.quiesce.handle ev).table.slots i).state ≠ .grantedWarmup := by
  subst ready
  intro warm
  exact (step_of_once coh on once).status_of_ready (arbiter_status_eq_some _ |>.mpr ⟨inUse, warm⟩)

end Own

/-- An accepted connection enters the table as a session that has said nothing yet, if there
is room for it. -/
theorem handleAccept_spec (cp : ControlPlane) (fd : Int) :
    (∀ j fd' msg, .send j fd' msg ∉ (cp.quiesce.handleAccept fd).out) ∧
      ((cp.quiesce.handleAccept fd).table = cp.table ∨
        0 ≤ fd ∧ ∃ idx session, (cp.table.slots idx).inUse = false ∧ session.ctrlFd = fd ∧
          session.inUse = true ∧ session.state = .connected ∧
          (cp.quiesce.handleAccept fd).table = cp.table.setSlot idx session) := by
  unfold handleAccept
  split
  · exact ⟨fun _ _ _ => List.not_mem_nil, .inl rfl⟩
  · rename_i valid
    split
    · refine ⟨fun j fd' msg sent => ?_, .inl rfl⟩
      cases List.mem_singleton.mp sent
    · rename_i idx table added
      obtain ⟨i, vacant, same⟩ := Option.map_eq_some_iff.mp added
      cases same
      exact ⟨fun _ _ _ => List.not_mem_nil, .inr ⟨Int.not_lt.mp valid, idx, _,
        SessionTable.firstFree_spec vacant, rfl, rfl, rfl, rfl⟩⟩

end ControlPlane

end Wisp

import Wisp.Admin.Plane
import Wisp.Control.Ownership

/-!
# The poll loop

`wisps_control_plane_run` one call after the other. An iteration polls the descriptors that the
slots have at its beginning, and works on the result while it answers the admin query, accepts a
client and reads from the clients: each of these may give a slot to another client, or use a
descriptor again.

The descriptors are those of the whole process. Of the operating system it is assumed that
`accept` and `recvmsg` return descriptors that are not open; other threads may open and close
their own at any time. An accepted socket is an object of the table, so that it can be told how
often it has been closed.
-/

namespace Wisp

open Transition System

/-- What `poll` reports for a client: nothing, `POLLIN`, or `POLLHUP` or `POLLERR` alone. -/
inductive Revents where
  | quiet
  | input
  | hangup
  deriving DecidableEq, Repr

/-- What `poll` reports: `POLLIN` for the three descriptors of the loop itself, and the clients. -/
structure Ready where
  stop : Bool
  chan : Bool
  listen : Bool
  slots : Slot → Revents

/-- Where the thread stands. In the dispatch loop `rest` are the slots that are still to come. -/
inductive PollPc where
  | poll
  | drain (ready : Ready)
  | accept (ready : Ready)
  | dispatch (ready : Ready) (rest : List Slot)
  | clock
  | returned
  | closed

/-- The control plane with its descriptors. `polled` stands for `slot_pos` and `pfds`: it is the
descriptor that was polled for a slot. -/
structure PollLoop where
  cp : ControlPlane
  files : Descriptors Int
  pc : PollPc
  polled : Slot → Option Int

inductive PollEvent where
  | poll (ready : Ready)
  | leave
  | drain (query : Option ControlQuery) (clock : Timespec)
  | accept (fd : Int)
  | dispatch (first : Nat) (stream : List Cell) (clock : Timespec)
  | tick (now clock : Timespec)
  | close
  | elsewhere (fd : Int)

namespace ControlPlane

/-- `drain_admin_query`: there is no query on a spurious wakeup. -/
def drainAdminQuery (cp : ControlPlane) (query : Option ControlQuery) (clock : Timespec) :
    ControlPlane :=
  match query with
  | none => cp
  | some .list => cp.handleListQuery
  | some (.switch switchClientId) => cp.handleSwitchQuery switchClientId clock

end ControlPlane

namespace PollLoop

/-- The loop is entered. The process has some descriptors already, none of them a client's. -/
def start (cp : ControlPlane) (taken : Int → Bool) : PollLoop where
  cp
  files := {
    entry := fun fd => if taken fd then .other else .free
    opened := 0
    closes := fun _ => 0
    stray := 0 }
  pc := .poll
  polled := fun _ => none

/-- A handler has returned, and what it closed is closed. -/
def settle (l : PollLoop) (cp : ControlPlane) (pc : PollPc) : PollLoop :=
  { l with cp, files := l.files.closeAll cp.closed, pc }

/-- The operating system can return these descriptors. -/
def Available (l : PollLoop) (fds : List Int) : Prop :=
  fds.Nodup ∧ ∀ fd ∈ fds, 0 ≤ fd ∧ l.files.entry fd = .free

instance (l : PollLoop) (fds : List Int) : Decidable (l.Available fds) :=
  inferInstanceAs (Decidable (_ ∧ _))

/-- The body of the dispatch loop. Whether the slot is still in use is not asked. -/
def dispatch (l : PollLoop) (ready : Ready) (i : Slot) (rest : List Slot) (first : Nat)
    (stream : List Cell) (clock : Timespec) : Option PollLoop :=
  match l.polled i, ready.slots i with
  | none, _ | some _, .quiet => some { l with pc := .dispatch ready rest }
  | some _, .input =>
      if l.Available (delivered first stream) then
        some ({ l with files := l.files.installAll (delivered first stream) }.settle
          (l.cp.quiesce.readSocket i first stream clock) (.dispatch ready rest))
      else none
  | some _, .hangup =>
      some (l.settle (l.cp.quiesce.handleDisconnect i clock) (.dispatch ready rest))

def step (l : PollLoop) : PollEvent → Option PollLoop
  | .poll ready =>
      match l.pc with
      | .poll =>
          let polled := fun i =>
            if (l.cp.table.slots i).inUse then some (l.cp.table.slots i).ctrlFd else none
          some { l with polled, pc := if ready.stop then .returned else .drain ready }
      | _ => none
  -- `running` has been cleared, or `poll` fails for another reason than a signal
  | .leave =>
      match l.pc with
      | .poll => some { l with pc := .returned }
      | _ => none
  | .drain query clock =>
      match l.pc with
      | .drain ready =>
          if ready.chan then
            some (l.settle (l.cp.quiesce.drainAdminQuery query clock) (.accept ready))
          else some { l with pc := .accept ready }
      | _ => none
  | .accept fd =>
      match l.pc with
      | .accept ready =>
          let pc := .dispatch ready (List.finRange sessionMaxClients)
          if ready.listen then
            if fd < 0 then some (l.settle (l.cp.quiesce.handleAccept fd) pc)
            else if l.files.entry fd = .free then
              some ({ l with files := l.files.create fd }.settle (l.cp.quiesce.handleAccept fd) pc)
            else none
          else some { l with pc }
      | _ => none
  | .dispatch first stream clock =>
      match l.pc with
      | .dispatch ready (i :: rest) => l.dispatch ready i rest first stream clock
      | .dispatch _ [] => some { l with pc := .clock }
      | _ => none
  | .tick now clock =>
      match l.pc with
      | .clock => some (l.settle (l.cp.quiesce.tick now clock) .poll)
      | _ => none
  | .close =>
      match l.pc with
      | .returned => some { l with files := l.files.closeAll l.cp.close, pc := .closed }
      | _ => none
  -- another thread opens a descriptor, or closes one of its own
  | .elsewhere fd =>
      match l.files.entry fd with
      | .free => some { l with files := l.files.installAll [fd] }
      | .other => some { l with files := l.files.closeAll [fd] }
      | .object _ => none

end PollLoop

/-- The poll loop as a transition system. -/
def pollLoop : System PollLoop PollEvent where
  step := PollLoop.step

/-- The slots whose result has still to be looked at in this iteration. -/
def PollPc.pending : PollPc → List Slot
  | .drain _ | .accept _ => List.finRange sessionMaxClients
  | .dispatch _ rest => rest
  | _ => []

namespace PollLoop

variable {l l' : PollLoop} {ev : PollEvent}

theorem not_closed {pc : PollPc} (stands : l.pc = pc) (other : pc ≠ .closed) : l.pc ≠ .closed :=
  stands ▸ other

/-- The slot was not polled, or it still has the descriptor that was polled for it. -/
def Current (l : PollLoop) (i : Slot) : Prop :=
  ∀ fd, l.polled i = some fd →
    (l.cp.table.slots i).inUse = true ∧ (l.cp.table.slots i).ctrlFd = fd

/-- What the loop keeps. -/
structure Good (l : PollLoop) : Prop where
  orderly : l.cp.Orderly
  sound : l.files.Sound
  owned : l.pc ≠ .closed → Owned l.cp l.files
  finished : l.pc = .closed → l.files.objects = ∅
  nodup : l.pc.pending.Nodup
  current : ∀ i ∈ l.pc.pending, l.Current i

/-- A step that frees no slot whose result has still to be looked at. -/
theorem Good.next (good : l.Good) {cp : ControlPlane} {files : Descriptors Int} {pc : PollPc}
    (orderly : cp.Orderly) (sound : files.Sound) (owned : Owned cp files) (going : pc ≠ .closed)
    (pending : pc.pending.Sublist l.pc.pending)
    (kept : ∀ i ∈ pc.pending, (l.cp.table.slots i).inUse = true →
      (cp.table.slots i).inUse = true ∧
        (cp.table.slots i).ctrlFd = (l.cp.table.slots i).ctrlFd) :
    Good { l with cp, files, pc } where
  orderly := orderly
  sound := sound
  owned _ := owned
  finished closed := absurd closed going
  nodup := good.nodup.sublist pending
  current i member fd polled := by
    obtain ⟨inUse, same⟩ := good.current i (pending.subset member) fd polled
    obtain ⟨inUse', same'⟩ := kept i member inUse
    exact ⟨inUse', same'.trans same⟩

/-- The sessions stay on their sockets. -/
theorem Good.keep (good : l.Good) {cp : ControlPlane} {pc : PollPc} (orderly : cp.Orderly)
    (keeps : l.cp.SameSockets cp) (pending : pc.pending.Sublist l.pc.pending)
    (before : l.pc ≠ .closed) (going : pc ≠ .closed) : Good { l with cp, pc } :=
  good.next orderly good.sound ((good.owned before).keep keeps) going pending
    fun i _ inUse => ⟨(keeps i).1.trans inUse, (keeps i).2⟩

/-- The thread goes on without doing anything. -/
theorem Good.goOn (good : l.Good) {pc : PollPc} (before : l.pc ≠ .closed) (going : pc ≠ .closed)
    (pending : pc.pending.Sublist l.pc.pending) : Good { l with pc } :=
  good.keep good.orderly (fun _ => ⟨rfl, rfl⟩) pending before going

/-- The session whose turn it is is closed. -/
theorem Good.leave (good : l.Good) {cp : ControlPlane} {ready : Ready} {i : Slot}
    {rest : List Slot} (stands : l.pc = .dispatch ready (i :: rest))
    (inUse : (l.cp.table.slots i).inUse = true) (orderly : cp.Orderly) (frees : l.cp.Frees i cp) :
    Good { l with
      cp, files := l.files.closeAll [(l.cp.table.slots i).ctrlFd], pc := .dispatch ready rest } ∧
    ∀ n, (l.files.closeAll [(l.cp.table.slots i).ctrlFd]).closes n = l.files.closes n ∨
      (l.files.closeAll [(l.cp.table.slots i).ctrlFd]).closes n = l.files.closes n + 1 ∧
        l.files.entry (l.cp.table.slots i).ctrlFd = .object n := by
  have owned := good.owned (not_closed stands nofun)
  have nodup : (i :: rest).Nodup := by
    have nodup := good.nodup
    rw [stands] at nodup
    exact nodup
  have single := List.nodup_singleton (l.cp.table.slots i).ctrlFd
  have used : ∀ fd ∈ [(l.cp.table.slots i).ctrlFd], l.files.entry fd ≠ .free := by
    intro fd member
    obtain ⟨n, object⟩ := owned.socket inUse
    rw [List.mem_singleton.mp member, object]
    exact Descriptors.Entry.noConfusion
  constructor
  · refine good.next orderly (good.sound.closeAll single used) (owned.leave inUse frees)
      PollPc.noConfusion ?_ fun j member inUse => ?_
    · rw [stands]
      exact List.sublist_cons_self i rest
    · have ne : j ≠ i := by
        rintro rfl
        exact (List.nodup_cons.mp nodup).1 member
      exact ⟨(frees.others j ne).1.trans inUse, (frees.others j ne).2⟩
  · intro n
    rcases good.sound.closes_closeAll single used n with same | ⟨once, fd, member, names⟩
    · exact .inl same
    · rw [List.mem_singleton.mp member] at names
      exact .inr ⟨once, names⟩

/-- The operating system returns descriptors. -/
theorem Good.install (good : l.Good) {fds : List Int}
    (free : ∀ fd ∈ fds, l.files.entry fd = .free) :
    Good { l with files := l.files.installAll fds } where
  orderly := good.orderly
  sound := good.sound.installAll free
  owned going := (good.owned going).installAll free
  finished closed := (Descriptors.objects_installAll free).trans (good.finished closed)
  nodup := good.nodup
  current := good.current

/-- Descriptors that are no client's sockets are closed. -/
theorem Good.release (good : l.Good) {fds : List Int} (distinct : fds.Nodup)
    (other : ∀ fd ∈ fds, l.files.entry fd = .other) :
    Good { l with files := l.files.closeAll fds } ∧
      (l.files.closeAll fds).closes = l.files.closes := by
  have used : ∀ fd ∈ fds, l.files.entry fd ≠ .free := by
    intro fd member
    rw [other fd member]
    exact Descriptors.Entry.noConfusion
  refine ⟨⟨good.orderly, good.sound.closeAll distinct used,
    fun going => (good.owned going).release other, fun closed => ?_, good.nodup, good.current⟩, ?_⟩
  · rw [Descriptors.objects_closeAll, good.finished closed]
    exact Set.sep_empty _
  · funext n
    refine Descriptors.closes_closeAll fun fd member names => ?_
    cases (other fd member).symm.trans names

/-- What closes the socket of this number: the refusal of a client for which there is no slot,
the disconnect of a client, or the end of the control plane. -/
inductive Closer (l : PollLoop) : PollEvent → PollLoop → Nat → Prop where
  | rejection {fd : Int} {l' : PollLoop} (full : ∀ i, (l.cp.table.slots i).inUse = true) :
      Closer l (.accept fd) l' l.files.opened
  | disconnect {ready : Ready} {i : Slot} {rest : List Slot} {first : Nat} {stream : List Cell}
      {clock : Timespec} {l' : PollLoop} {n : Nat} (stands : l.pc = .dispatch ready (i :: rest))
      (inUse : (l.cp.table.slots i).inUse = true)
      (names : l.files.entry (l.cp.table.slots i).ctrlFd = .object n)
      (gone : (l'.cp.table.slots i).inUse = false) : Closer l (.dispatch first stream clock) l' n
  | shutdown {i : Slot} {l' : PollLoop} {n : Nat} (inUse : (l.cp.table.slots i).inUse = true)
      (names : l.files.entry (l.cp.table.slots i).ctrlFd = .object n) : Closer l .close l' n

/-- A step closes a socket once, if at all, and for one of these reasons. -/
def Accounts (l : PollLoop) (ev : PollEvent) (l' : PollLoop) : Prop :=
  ∀ n, l'.files.closes n = l.files.closes n ∨
    l'.files.closes n = l.files.closes n + 1 ∧ Closer l ev l' n

theorem accounts_of_closes (same : l'.files.closes = l.files.closes) : Accounts l ev l' :=
  fun n => .inl (by rw [same])

/-- A handler that leaves the sessions on their sockets. -/
theorem Good.settle (good : l.Good) {cp : ControlPlane} {pc : PollPc}
    (same : l' = l.settle cp pc) (steady : ControlPlane.Steady l.cp.quiesce cp)
    (pending : pc.pending.Sublist l.pc.pending) (before : l.pc ≠ .closed) (going : pc ≠ .closed) :
    l'.Good ∧ Accounts l ev l' := by
  have changes : ControlPlane.Changes l.cp.quiesce .list cp := .steady nofun nofun steady
  have nothing : cp.closed = [] := ControlPlane.closed_of_steady steady
  have same : l' = { l with cp, files := l.files, pc } := by
    rw [same, PollLoop.settle, nothing]
    rfl
  subst same
  refine ⟨good.keep ?_ (fun i => ⟨steady.inUse i, steady.ctrlFd i⟩) pending before going,
    accounts_of_closes rfl⟩
  exact ControlPlane.orderly_of_changes good.orderly.quiesce changes

/-- A client is dispatched: what came with the message is closed or left open, and the session
keeps its socket or loses it. -/
theorem Good.dispatched (good : l.Good) {ready : Ready} {i : Slot} {rest : List Slot}
    {first : Nat} {stream : List Cell} {clock : Timespec} {fds ks : List Int} {cp : ControlPlane}
    (stands : l.pc = .dispatch ready (i :: rest)) (inUse : (l.cp.table.slots i).inUse = true)
    (available : l.Available fds) (came : List.Subperm ks fds) (orderly : cp.Orderly)
    (result : l.cp.SameSockets cp ∧ cp.closed = ks ∨
      l.cp.Frees i cp ∧ cp.closed = ks ++ [(l.cp.table.slots i).ctrlFd])
    (same : l' = { l with files := l.files.installAll fds }.settle cp (.dispatch ready rest)) :
    l'.Good ∧ Accounts l (.dispatch first stream clock) l' := by
  have free : ∀ fd ∈ fds, l.files.entry fd = .free := fun fd member => (available.2 fd member).2
  have distinct : ks.Nodup := by
    obtain ⟨ks', perm, sublist⟩ := came
    exact perm.nodup_iff.mp (available.1.sublist sublist)
  have other : ∀ fd ∈ ks, (l.files.installAll fds).entry fd = .other := by
    intro fd member
    rw [Descriptors.entry_installAll, if_pos (came.subset member)]
  obtain ⟨released, before⟩ := (good.install free).release distinct other
  dsimp only at released before
  rw [Descriptors.closes_installAll] at before
  rcases result with ⟨keeps, closed⟩ | ⟨frees, closed⟩
  · rw [PollLoop.settle, closed] at same
    subst same
    refine ⟨released.keep orderly keeps ?_ ?_ PollPc.noConfusion, accounts_of_closes before⟩
    · show List.Sublist rest l.pc.pending
      rw [stands]
      exact List.sublist_cons_self i rest
    · exact not_closed stands nofun
  · obtain ⟨left, once⟩ := released.leave stands inUse orderly frees
    rw [PollLoop.settle, closed, Descriptors.closeAll_append] at same
    subst same
    refine ⟨left, fun n => ?_⟩
    have once := once n
    dsimp only at once ⊢
    rw [before] at once
    rcases once with same | ⟨once, names⟩
    · exact .inl same
    · refine .inr ⟨once, .disconnect stands inUse ?_ frees.gone⟩
      exact Descriptors.entry_of_installAll (Descriptors.entry_of_closeAll names)

theorem Good.dispatch (good : l.Good) {ready : Ready} {i : Slot} {rest : List Slot} {first : Nat}
    {stream : List Cell} {clock : Timespec} (stands : l.pc = .dispatch ready (i :: rest))
    (taken : l.dispatch ready i rest first stream clock = some l') :
    l'.Good ∧ Accounts l (.dispatch first stream clock) l' := by
  have going := not_closed stands nofun
  have skips : Good { l with pc := .dispatch ready rest } := by
    refine good.goOn going PollPc.noConfusion ?_
    rw [stands]
    exact List.sublist_cons_self i rest
  have inUse {fd : Int} (polled : l.polled i = some fd) : (l.cp.table.slots i).inUse = true := by
    refine (good.current i ?_ fd polled).1
    rw [stands]
    exact List.mem_cons_self
  have unadopted := good.orderly.unadopted
  unfold PollLoop.dispatch at taken
  split at taken
  · cases taken
    exact ⟨skips, accounts_of_closes rfl⟩
  · cases taken
    exact ⟨skips, accounts_of_closes rfl⟩
  · rename_i fd polled _
    split at taken
    · rename_i available
      cases taken
      obtain ⟨ks, came, result⟩ :=
        ControlPlane.sockets_of_readSocket (inUse polled) unadopted first stream clock
      have orderly :=
        ControlPlane.orderly_of_readSocket good.orderly (inUse polled) first stream clock
      exact good.dispatched stands (inUse polled) available came orderly result rfl
    · cases taken
  · rename_i fd polled _
    cases taken
    have used : (l.cp.quiesce.table.slots i).inUse = true := inUse polled
    have leaves := ControlPlane.Leaves.handleDisconnect used good.orderly.quiesce.unadopted clock
    have changes : ControlPlane.Changes l.cp.quiesce (.hangup i clock) _ :=
      .left (.inr ⟨clock, rfl⟩) used leaves
    have frees : l.cp.Frees i (l.cp.quiesce.handleDisconnect i clock) :=
      ⟨leaves.gone, (ControlPlane.frees_of_leaves leaves).others⟩
    exact good.dispatched stands (inUse polled) ⟨List.nodup_nil, nofun⟩ (.refl [])
      (ControlPlane.orderly_of_changes good.orderly.quiesce changes)
      (.inr ⟨frees, ControlPlane.closed_of_leaves leaves⟩) rfl

/-- A client gets a free slot. -/
theorem Good.join (good : l.Good) {cp : ControlPlane} {ready : Ready} {fd : Int} {i : Slot}
    (stands : l.pc = .accept ready) (valid : 0 ≤ fd) (unused : l.files.entry fd = .free)
    (vacant : (l.cp.table.slots i).inUse = false) (orderly : cp.Orderly)
    (joined : cp.table = l.cp.table.setSlot i (ControlPlane.newcomer fd)) :
    Good { l with
      cp, files := l.files.create fd
      pc := .dispatch ready (List.finRange sessionMaxClients) } := by
  have owned := good.owned (not_closed stands nofun)
  refine good.next orderly (good.sound.create unused) ?_ PollPc.noConfusion ?_ fun j _ inUse => ?_
  · exact (owned.join valid unused vacant).keep fun _ => by rw [joined]; exact ⟨rfl, rfl⟩
  · rw [stands]
    exact .refl _
  · have other : j ≠ i := by
      rintro rfl
      cases vacant.symm.trans inUse
    simp [joined, SessionTable.setSlot, other, inUse]

/-- A client for which there is no slot is closed. -/
theorem Good.refuse (good : l.Good) {cp : ControlPlane} {ready : Ready} {fd : Int}
    (stands : l.pc = .accept ready) (unused : l.files.entry fd = .free) (orderly : cp.Orderly)
    (full : ∀ i, (l.cp.table.slots i).inUse = true) (same : cp.table = l.cp.table)
    (closed : cp.closed = [fd])
    (next : l' = { l with files := l.files.create fd }.settle cp
      (.dispatch ready (List.finRange sessionMaxClients))) :
    l'.Good ∧ Accounts l (.accept fd) l' := by
  rw [PollLoop.settle, closed] at next
  subst next
  have owned := good.owned (not_closed stands nofun)
  have sound := good.sound.create unused
  have here : (l.files.create fd).entry fd = .object l.files.opened :=
    Descriptors.entry_create_self
  have single := List.nodup_singleton fd
  have used : ∀ k ∈ [fd], (l.files.create fd).entry k ≠ .free := by
    intro k member
    rw [List.mem_singleton.mp member, here]
    exact Descriptors.Entry.noConfusion
  constructor
  · refine good.next orderly (sound.closeAll single used) ?_ PollPc.noConfusion ?_
      fun _ _ inUse => ⟨by rw [same]; exact inUse, by rw [same]⟩
    · exact (owned.refuse unused).keep fun _ => by rw [same]; exact ⟨rfl, rfl⟩
    · rw [stands]
      exact .refl _
  · intro n
    rcases sound.closes_closeAll single used n with once | ⟨once, k, member, names⟩
    · exact .inl once
    · rw [List.mem_singleton.mp member, here] at names
      cases names
      exact .inr ⟨once, .rejection full⟩

/-- The accept branch, when the operating system returns a descriptor. -/
theorem Good.accepted (good : l.Good) {ready : Ready} {fd : Int} (stands : l.pc = .accept ready)
    (valid : 0 ≤ fd) (unused : l.files.entry fd = .free)
    (next : l' = { l with files := l.files.create fd }.settle (l.cp.quiesce.handleAccept fd)
      (.dispatch ready (List.finRange sessionMaxClients))) :
    l'.Good ∧ Accounts l (.accept fd) l' := by
  have changes : ControlPlane.Changes l.cp.quiesce (.accept fd) (l.cp.quiesce.handleAccept fd) :=
    ControlPlane.changes_of_handle rfl good.orderly.quiesce.unadopted
  have orderly := ControlPlane.orderly_of_changes good.orderly.quiesce changes
  generalize l.cp.quiesce.handleAccept fd = cp at changes orderly next
  generalize event : Event.accept fd = ev at changes
  cases changes with
  | steady listens => exact absurd (listens fd event.symm) (Int.not_lt.mpr valid)
  | joined _ vacant =>
      cases event
      subst next
      exact ⟨good.join stands valid unused vacant orderly rfl, accounts_of_closes rfl⟩
  | refused _ full =>
      cases event
      exact good.refuse stands unused orderly full rfl rfl next
  | negotiated => cases event
  | left own =>
      obtain ⟨_, _, same⟩ | ⟨_, same⟩ := own
      · cases event.trans same
      · cases event.trans same
  | announced => cases event

theorem Good.accept (good : l.Good) {fd : Int} (taken : l.step (.accept fd) = some l') :
    l'.Good ∧ Accounts l (.accept fd) l' := by
  simp only [PollLoop.step] at taken
  split at taken
  · rename_i ready stands
    have before := not_closed stands nofun
    have pending : (PollPc.dispatch ready (List.finRange sessionMaxClients)).pending.Sublist
        l.pc.pending := by
      rw [stands]
      exact .refl _
    split at taken
    · split at taken
      · rename_i failed
        cases taken
        have steady : ControlPlane.Steady l.cp.quiesce (l.cp.quiesce.handleAccept fd) := by
          rw [ControlPlane.handleAccept, if_pos failed]
          exact .refl
        exact good.settle rfl steady pending before nofun
      · rename_i valid
        split at taken
        · rename_i unused
          cases taken
          exact good.accepted stands (Int.not_lt.mp valid) unused rfl
        · cases taken
    · cases taken
      exact ⟨good.goOn before nofun pending, accounts_of_closes rfl⟩
  · cases taken

theorem Good.close (good : l.Good) (stands : l.pc = .returned)
    (same : l' = { l with files := l.files.closeAll l.cp.close, pc := .closed }) :
    l'.Good ∧ Accounts l .close l' := by
  subst same
  have owned := good.owned (not_closed stands nofun)
  have used : ∀ fd ∈ l.cp.close, l.files.entry fd ≠ .free := by
    intro fd member
    obtain ⟨i, inUse, rfl⟩ := owned.mem_close.mp member
    obtain ⟨n, names⟩ := owned.socket inUse
    rw [names]
    exact Descriptors.Entry.noConfusion
  refine ⟨⟨good.orderly, good.sound.closeAll owned.nodup_close used,
    fun going => absurd rfl going, fun _ => ?_, List.nodup_nil, nofun⟩, fun n => ?_⟩
  · rw [Descriptors.objects_closeAll, Set.sep_eq_empty_iff_mem_false]
    exact fun fd known other => other (owned.mem_close.mpr ((owned.sockets fd).mp known))
  · rcases good.sound.closes_closeAll owned.nodup_close used n with
      same | ⟨once, fd, member, names⟩
    · exact .inl same
    · obtain ⟨i, inUse, rfl⟩ := owned.mem_close.mp member
      exact .inr ⟨once, .shutdown inUse names⟩

/-- Another thread opens or closes a descriptor that is no client's socket. -/
theorem Good.elsewhere (good : l.Good) {fd : Int} (taken : l.step (.elsewhere fd) = some l') :
    l'.Good ∧ Accounts l (.elsewhere fd) l' := by
  simp only [step] at taken
  split at taken
  · rename_i free
    cases taken
    have free : ∀ k ∈ [fd], l.files.entry k = .free := by
      intro k member
      rwa [List.mem_singleton.mp member]
    exact ⟨good.install free, accounts_of_closes rfl⟩
  · rename_i other
    cases taken
    have other : ∀ k ∈ [fd], l.files.entry k = .other := by
      intro k member
      rwa [List.mem_singleton.mp member]
    obtain ⟨released, same⟩ := good.release (List.nodup_singleton fd) other
    exact ⟨released, accounts_of_closes same⟩
  · cases taken

/-- The descriptors that are polled are those of the slots. -/
theorem Good.poll (good : l.Good) (stands : l.pc = .poll) (ready : Ready) :
    Good { l with
      polled := fun i =>
        if (l.cp.table.slots i).inUse then some (l.cp.table.slots i).ctrlFd else none
      pc := if ready.stop then .returned else .drain ready } := by
  have owned := good.owned (not_closed stands nofun)
  refine ⟨good.orderly, good.sound, fun _ => owned, fun closed => ?_, ?_,
    fun i _ fd polled => ?_⟩
  · split at closed <;> cases closed
  · dsimp only
    split
    · exact List.nodup_nil
    · exact List.nodup_finRange _
  · dsimp only at polled
    split at polled
    · rename_i inUse
      cases polled
      exact ⟨inUse, rfl⟩
    · cases polled

theorem steady_drainAdminQuery (cp : ControlPlane) (query : Option ControlQuery)
    (clock : Timespec) : ControlPlane.Steady cp (cp.drainAdminQuery query clock) := by
  unfold ControlPlane.drainAdminQuery
  split
  · exact .refl
  · exact .handleListQuery
  · exact .handleSwitchQuery _ clock

theorem Good.drain (good : l.Good) {query : Option ControlQuery} {clock : Timespec}
    (taken : l.step (.drain query clock) = some l') :
    l'.Good ∧ Accounts l (.drain query clock) l' := by
  simp only [PollLoop.step] at taken
  split at taken
  · rename_i ready stands
    have before := not_closed stands nofun
    have pending : (PollPc.accept ready).pending.Sublist l.pc.pending := by
      rw [stands]
      exact .refl _
    split at taken
    · cases taken
      exact good.settle rfl (steady_drainAdminQuery l.cp.quiesce query clock) pending before nofun
    · cases taken
      exact ⟨good.goOn before nofun pending, accounts_of_closes rfl⟩
  · cases taken

/-- A step keeps the invariant, and closes sockets only for the three reasons. -/
theorem Good.step (good : l.Good) (taken : pollLoop.step l ev = some l') :
    l'.Good ∧ Accounts l ev l' := by
  cases ev with
  | drain => exact good.drain taken
  | accept => exact good.accept taken
  | elsewhere => exact good.elsewhere taken
  | poll ready =>
      simp only [pollLoop, PollLoop.step] at taken
      split at taken
      · rename_i stands
        cases taken
        exact ⟨good.poll stands ready, accounts_of_closes rfl⟩
      · cases taken
  | leave =>
      simp only [pollLoop, PollLoop.step] at taken
      split at taken
      · rename_i stands
        cases taken
        exact ⟨good.goOn (not_closed stands nofun) nofun (List.nil_sublist _),
          accounts_of_closes rfl⟩
      · cases taken
  | dispatch first stream clock =>
      simp only [pollLoop, PollLoop.step] at taken
      split at taken
      · rename_i ready i rest stands
        exact good.dispatch stands taken
      · rename_i stands
        cases taken
        exact ⟨good.goOn (not_closed stands nofun) nofun (List.nil_sublist _),
          accounts_of_closes rfl⟩
      · cases taken
  | tick now clock =>
      simp only [pollLoop, PollLoop.step] at taken
      split at taken
      · rename_i stands
        cases taken
        exact good.settle rfl (ControlPlane.Steady.tick now clock) (List.nil_sublist _)
          (not_closed stands nofun) nofun
      · cases taken
  | close =>
      simp only [pollLoop, PollLoop.step] at taken
      split at taken
      · rename_i stands
        cases taken
        exact good.close stands rfl
      · cases taken

/-- What holds of the sockets in every state. Until the end, the slots in use have the sockets
that have been accepted and not closed, one each; every other one has been closed once, and
nothing is closed that is not open. A slot whose turn comes in the dispatch loop still has the
descriptor that was polled for it. -/
structure Owns (l : PollLoop) : Prop where
  distinct : l.pc ≠ .closed → ∀ i j, (l.cp.table.slots i).inUse = true →
    (l.cp.table.slots j).inUse = true →
    (l.cp.table.slots i).ctrlFd = (l.cp.table.slots j).ctrlFd → i = j
  sockets : l.pc ≠ .closed → ∀ fd, (∃ n, l.files.entry fd = .object n) ↔
    ∃ i, (l.cp.table.slots i).inUse = true ∧ (l.cp.table.slots i).ctrlFd = fd
  once : ∀ n < l.files.opened,
    l.files.IsOpen n ∧ l.files.closes n = 0 ∨ ¬ l.files.IsOpen n ∧ l.files.closes n = 1
  stray : l.files.stray = 0
  finished : l.pc = .closed → ∀ n < l.files.opened, l.files.closes n = 1
  current : ∀ ready i rest, l.pc = .dispatch ready (i :: rest) → ∀ fd, l.polled i = some fd →
    (l.cp.table.slots i).inUse = true ∧ (l.cp.table.slots i).ctrlFd = fd

theorem Good.owns (good : l.Good) : l.Owns where
  distinct going := (good.owned going).distinct
  sockets going := (good.owned going).sockets
  once n before := by
    by_cases opens : l.files.IsOpen n
    · exact .inl ⟨opens, good.sound.live n opens⟩
    · exact .inr ⟨opens, good.sound.gone n before opens⟩
  stray := good.sound.stray
  finished closed n before := by
    refine good.sound.gone n before ?_
    rintro ⟨fd, names⟩
    have known : fd ∈ l.files.objects := ⟨n, names⟩
    rw [good.finished closed] at known
    exact known
  current ready i rest stands := by
    refine good.current i ?_
    rw [stands]
    exact List.mem_cons_self

theorem good_of_init {cp : ControlPlane} {ring : Ring} {frameFd : Int} {dp : Bool}
    {supportedModes : List RenderMode} (taken : Int → Bool)
    (created : ControlPlane.init ring frameFd dp supportedModes = some cp) :
    (start cp taken).Good := by
  have none (fd : Int) (n : Nat) : (start cp taken).files.entry fd ≠ .object n := by
    show (if taken fd then _ else _) ≠ Descriptors.Entry.object n
    split <;> exact Descriptors.Entry.noConfusion
  have vacant (i : Slot) : (cp.table.slots i).inUse = false := by
    unfold ControlPlane.init at created
    split at created
    · cases created
    · cases created
      rfl
  refine ⟨ControlPlane.orderly_of_init created, ⟨?_, ?_, ?_, ?_, fun _ _ => rfl, rfl⟩, fun _ => ?_,
    nofun, List.nodup_nil, nofun⟩
  · exact fun n ⟨fd, names⟩ => absurd names (none fd n)
  · exact fun j _ n names => absurd names (none j n)
  · exact fun n ⟨fd, names⟩ => absurd names (none fd n)
  · exact fun n before => absurd before (Nat.not_lt_zero n)
  · refine ⟨fun i _ inUse => ?_, fun fd => iff_of_false ?_ ?_, fun i inUse => ?_⟩
    · cases (vacant i).symm.trans inUse
    · rintro ⟨n, names⟩
      exact none fd n names
    · rintro ⟨i, inUse, -⟩
      cases (vacant i).symm.trans inUse
    · cases (vacant i).symm.trans inUse

/-- In every run of the loop the slots in use own the open sockets, every accepted socket is
closed once, for one of the three reasons, and no handler is called on a stale result. -/
theorem owns_of_run {cp : ControlPlane} {ring : Ring} {frameFd : Int} {dp : Bool}
    {supportedModes : List RenderMode} {taken : Int → Bool} {finish : PollLoop}
    {trace : List (PollLoop × PollEvent)}
    (created : ControlPlane.init ring frameFd dp supportedModes = some cp)
    (run : pollLoop.Run (start cp taken) trace finish) :
    (Through Owns trace ∧ finish.Owns) ∧
      Meets (fun l ev => ∀ l', pollLoop.step l ev = some l' → Accounts l ev l') trace := by
  have initial : (start cp taken).Good := good_of_init taken created
  have free : Meets (fun _ _ => True) trace := fun _ _ => trivial
  have kept (l : PollLoop) (ev : PollEvent) (l' : PollLoop) (good : l.Good) (_ : True)
      (taken : pollLoop.step l ev = some l') : l'.Good := (good.step taken).1
  refine ⟨⟨?_, (run.invariant free initial kept).owns⟩, ?_⟩
  · exact (run.through free initial kept).mono fun l _ good => good.owns
  · exact run.meets free initial kept fun l ev _ good _ _ l' taken => (good.step taken).2

/-- An iteration that accepts a client while another one hangs up. -/
def iteration (fd : Int) (hung : Slot → Bool) : List PollEvent :=
  let ready : Ready :=
    { stop := false, chan := false, listen := true
      slots := fun i => if hung i then .hangup else .quiet }
  [.poll ready, .drain none ⟨0, 0⟩, .accept fd] ++
    List.replicate (sessionMaxClients + 1) (.dispatch 0 [] ⟨0, 0⟩) ++ [.tick ⟨0, 0⟩ ⟨0, 0⟩]

/-- The descriptor 10 is used again while the second client hangs up. -/
theorem owns_of_run_reuse :
    ∃ trace finish, pollLoop.Run (start ControlPlane.booted fun fd => decide (fd < 10)) trace
        finish ∧
      trace.map Prod.snd = iteration 10 (fun _ => false) ++ iteration 11 (· == 0) ++
        iteration 10 (· == 1) ++ [.leave, .close] ∧
      (finish.files.opened = 3 ∧ ∀ n < 3, finish.files.closes n = 1) ∧
      (Through Owns trace ∧ finish.Owns) ∧
      Meets (fun l ev => ∀ l', pollLoop.step l ev = some l' → Accounts l ev l') trace := by
  refine Demonstrates.exists_run (P := fun _ finish =>
    finish.files.opened = 3 ∧ ∀ n < 3, finish.files.closes n = 1) (by decide +kernel) ?_
  intro trace finish run counted
  exact ⟨counted, owns_of_run ControlPlane.init_eq_booted run⟩

end PollLoop

end Wisp

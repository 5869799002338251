import Mathlib.Data.List.Perm.Subperm
import Wisp.DataPlane.Signal

/-!
# The statistics of the data plane

`wisps_data_plane_stats_t` counts the frames rendered, the wakeups that found nothing, and the
blits that failed. `Tally` keeps the same counts off the events of a run: what the blits
returned, and which checkouts came with no frame published since the last eviction.

Between the blit and the end of the cycle the statistics lag behind; `due` is what they are
about to be. Each cycle is paid for by a signal: `credit` is what the signals so far are still
worth, so the cycles never outnumber the signals, nor the signals the publishes.
-/

namespace Wisp

open Transition System

/-- How many cycles the loop is still good for, given whether a signal waits. -/
def LoopPc.worth (loop : LoopPc) (ringing : Nat) : Nat :=
  match loop with
  | .woken events | .drain events false => if events.contains .frameFd then 1 else ringing
  | .drain _ true | .checkout | .loadFrameId _ | .loadWriteTs _ _ | .loadPixels _ _ _
  | .blit _ _ _ => 1 + ringing
  | .top | .wait | .release _ _ _ | .count _ _ _ | .stopped | .undefined => ringing

namespace DataPlane

/-- The statistics once the cycle in progress is accounted for. -/
def due (dp : DataPlane) : DataPlaneStats :=
  match dp.loop with
  | .release writeTsNs rc nowNs | .count writeTsNs rc nowNs => (dp.account writeTsNs rc nowNs).stats
  | _ => dp.stats

/-- A signal waits in the eventfd. -/
def ringing (dp : DataPlane) : Nat :=
  if 0 < dp.frameFd then 1 else 0

/-- How many cycles the signals so far can still lead to, with the one in progress until its
blit has returned. A signal that was reported and not drained yet may be the one that waits. -/
def credit (dp : DataPlane) : Nat :=
  dp.loop.worth dp.ringing

end DataPlane

/-- How a cycle ends: the blit succeeded, there was no frame, or the blit failed. -/
inductive CycleEnd where
  | rendered
  | dropped
  | failed
  deriving DecidableEq

/-- The end of a cycle, if the step is one. `found` tells whether there is a frame. -/
def DataPlane.ends (dp : DataPlane) (found : Bool) (ev : LoopEvent) : Option CycleEnd :=
  match dp.loop, ev with
  | .checkout, _ => if found then none else some .dropped
  | .blit _ _ _, .blitted rc _ => some (if rc = 0 then .rendered else .failed)
  | _, _ => none

/-- What has happened so far: who published and who signalled, in order, and how many blits
succeeded, wakeups found nothing, and blits failed. -/
structure Tally where
  published : List Nat
  rung : List Nat
  rendered : Nat
  dropped : Nat
  failed : Nat
  deriving DecidableEq

namespace Tally

def none : Tally := ⟨[], [], 0, 0, 0⟩

/-- The cycles that are over. -/
def cycles (t : Tally) : Nat :=
  t.rendered + t.dropped + t.failed

/-- A cycle is over. -/
def close (t : Tally) : CycleEnd → Tally
  | .rendered => { t with rendered := t.rendered + 1 }
  | .dropped => { t with dropped := t.dropped + 1 }
  | .failed => { t with failed := t.failed + 1 }

@[simp] theorem settle_rung (t : Tally) (e : Option CycleEnd) :
    (e.elim t t.close).rung = t.rung := by
  cases e with
  | none => rfl
  | some e => cases e <;> rfl

@[simp] theorem settle_published (t : Tally) (e : Option CycleEnd) :
    (e.elim t t.close).published = t.published := by
  cases e with
  | none => rfl
  | some e => cases e <;> rfl

/-- A checkout finds a frame if one was published since the last eviction. -/
def note (t : Tally) (x : Feed × Sighting) (ev : FeedEvent) (_ : Feed × Sighting) : Tally :=
  match ev with
  | .app c _ =>
      match (x.1.clients c).app with
      | .publishLocked _ _ => { t with published := t.published ++ [c] }
      | .signal => { t with rung := t.rung ++ [c] }
      | _ => t
  | .loop turn => (x.1.dataPlane.ends x.2.newest.isSome turn).elim t t.close
  | _ => t

/-- A client is counted only when it publishes or signals. -/
theorem note_of_silent (t : Tally) {x y : Feed × Sighting} {c : Nat} {choice : Choice}
    (elsewhere : ∀ idx generation, (x.1.clients c).app ≠ .publishLocked idx generation)
    (busy : (x.1.clients c).app ≠ .signal) : t.note x (.app c choice) y = t := by
  cases stands : (x.1.clients c).app
  case publishLocked idx generation => exact absurd stands (elsewhere idx generation)
  case signal => exact absurd stands busy
  all_goals
    show (match (x.1.clients c).app with
      | .publishLocked _ _ => { t with published := t.published ++ [c] }
      | .signal => { t with rung := t.rung ++ [c] }
      | _ => t) = t
    rw [stands]

end Tally

/-- The statistics say what happened. A 64-bit counter wraps around. -/
structure DataPlane.Truthful (dp : DataPlane) (t : Tally) : Prop where
  rendered : dp.due.framesRendered = UInt64.ofNat t.rendered
  dropped : dp.due.framesDropped = UInt64.ofNat t.dropped
  failed : dp.due.blitErrors = UInt64.ofNat t.failed

/-- Every cycle goes back to a signal of its own, and every signal to a publish of the same
client. -/
structure Tally.Covered (t : Tally) : Prop where
  cycles : t.cycles ≤ t.rung.length
  signals : t.rung.Subperm t.published

namespace DataPlane

variable {dp dp' : DataPlane} {ring ring' : Ring} {ev : LoopEvent} {t : Tally}

/-- Only the statistics before matter for those after. -/
theorem account_congr (stats : dp'.stats = dp.stats) (writeTsNs : UInt64) (rc : Int)
    (nowNs : UInt64) :
    (dp'.account writeTsNs rc nowNs).stats = (dp.account writeTsNs rc nowNs).stats := by
  unfold account
  split
  · rw [stats]
  · rw [stats]

theorem account_goto (dp : DataPlane) (loop : LoopPc) (writeTsNs : UInt64) (rc : Int)
    (nowNs : UInt64) :
    ((dp.goto loop).account writeTsNs rc nowNs).stats = (dp.account writeTsNs rc nowNs).stats :=
  account_congr (show (dp.goto loop).stats = dp.stats from rfl) writeTsNs rc nowNs

theorem due_congr (stats : dp'.stats = dp.stats) (loop : dp'.loop = dp.loop) :
    dp'.due = dp.due := by
  unfold due
  rw [loop]
  split
  · exact account_congr stats _ _ _
  · exact account_congr stats _ _ _
  · exact stats

/-- What is due is what is there, outside the end of a cycle. -/
theorem due_of_access {loop : LoopPc} (stands : dp.loop = loop)
    (release : ∀ writeTsNs rc nowNs, loop ≠ .release writeTsNs rc nowNs)
    (count : ∀ writeTsNs rc nowNs, loop ≠ .count writeTsNs rc nowNs) : dp.due = dp.stats := by
  unfold due
  rw [stands]
  split
  · exact absurd rfl (release _ _ _)
  · exact absurd rfl (count _ _ _)
  · rfl

/-- Nothing that the statistics are about. -/
theorem Truthful.of_due (truthful : dp.Truthful t) (same : dp'.due = dp.due) : dp'.Truthful t where
  rendered := by rw [same]; exact truthful.rendered
  dropped := by rw [same]; exact truthful.dropped
  failed := by rw [same]; exact truthful.failed

/-- The blit has returned. -/
theorem Truthful.account (truthful : dp.Truthful t) (same : dp.due = dp.stats)
    (writeTsNs : UInt64) (rc : Int) (nowNs : UInt64)
    (settles : dp'.due = (dp.account writeTsNs rc nowNs).stats) :
    dp'.Truthful (t.close (if rc = 0 then .rendered else .failed)) := by
  obtain ⟨rendered, dropped, failed⟩ := truthful
  rw [same] at rendered dropped failed
  by_cases good : rc = 0
  · rw [if_pos good]
    refine ⟨?_, ?_, ?_⟩ <;> rw [settles]
    all_goals simp [DataPlane.account, good, Tally.close, rendered, dropped, failed]
  · rw [if_neg good]
    refine ⟨?_, ?_, ?_⟩ <;> rw [settles]
    all_goals simp [DataPlane.account, good, Tally.close, rendered, dropped, failed]

/-- The checkout has returned. -/
theorem Truthful.checkedOut (truthful : dp.Truthful t) (same : dp.due = dp.stats) (idx : Int) :
    (dp.checkedOut idx).Truthful (if idx < 0 then t.close .dropped else t) := by
  obtain ⟨rendered, dropped, failed⟩ := truthful
  rw [same] at rendered dropped failed
  unfold DataPlane.checkedOut
  split
  · refine ⟨?_, ?_, ?_⟩
    all_goals simp [DataPlane.due, DataPlane.goto, Tally.close, rendered, dropped, failed]
  · exact ⟨rendered, dropped, failed⟩

/-- What a step of the loop does for the books. -/
def Books (dp dp' : DataPlane) (t t' : Tally) : Prop :=
  dp'.Truthful t' ∧ t'.cycles + dp'.credit ≤ t.cycles + dp.credit

/-- A step on which no cycle ends. -/
theorem Books.of_due (truthful : dp.Truthful t) (due : dp'.due = dp.due)
    (credit : dp'.credit ≤ dp.credit) : Books dp dp' t t :=
  ⟨truthful.of_due due, Nat.add_le_add_left credit _⟩

theorem ringing_le : dp.ringing ≤ 1 := by
  unfold ringing
  split
  · omega
  · omega

theorem cycles_close (e : CycleEnd) : (t.close e).cycles = t.cycles + 1 := by
  cases e <;> simp only [Tally.close, Tally.cycles] <;> omega

/-- The loop moves on within a cycle. -/
theorem Books.of_goto {loop : LoopPc} (truthful : dp.Truthful t) (due : dp.due = dp.stats)
    (release : ∀ writeTsNs rc nowNs, loop ≠ .release writeTsNs rc nowNs)
    (count : ∀ writeTsNs rc nowNs, loop ≠ .count writeTsNs rc nowNs)
    (worth : loop.worth dp.ringing ≤ dp.loop.worth dp.ringing) : Books dp (dp.goto loop) t t := by
  refine .of_due truthful ?_ worth
  rw [due, due_of_access rfl release count]
  rfl

/-- A signal that is drained was counted when it was reported. -/
theorem books_of_drain {source : Source} {events : List Source} {haveFrameSignal : Bool}
    (truthful : dp.Truthful t) (stands : dp.loop = .drain (source :: events) haveFrameSignal)
    (taken : dp.next ring = some (dp', ring')) : Books dp dp' t t := by
  have due : dp.due = dp.stats := due_of_access stands (by simp) (by simp)
  simp only [next, stands] at taken
  split at taken
  · rename_i waits
    cases taken
    have same : (dp.clear source).loop = dp.loop := dp.clear_loop source
    refine .of_due truthful ?_ ?_
    · rw [due, due_of_access (same.trans stands) (by simp) (by simp)]
      cases source <;> rfl
    · rw [credit, credit, same, stands]
      cases source with
      | frameFd =>
          have empty : (dp.clear .frameFd).ringing = 0 := rfl
          cases haveFrameSignal <;> simp [LoopPc.worth, empty]
      | abortFd => exact Nat.le_refl _
  · rename_i empty
    cases taken
    refine .of_goto truthful due (by simp) (by simp) ?_
    rw [stands]
    cases source with
    | frameFd =>
        have empty : dp.ringing = 0 := if_neg empty
        cases haveFrameSignal <;> simp [LoopPc.worth, empty]
    | abortFd =>
        have other : (Source.abortFd == Source.frameFd) = false := rfl
        rw [other, Bool.or_false]
        cases haveFrameSignal <;> simp [LoopPc.worth]

/-- A checkout without a frame ends the cycle, one with a frame goes on with it. -/
theorem books_of_checkout (truthful : dp.Truthful t) (stands : dp.loop = .checkout) (idx : Int) :
    Books dp (dp.checkedOut idx) t (if idx < 0 then t.close .dropped else t) := by
  have due : dp.due = dp.stats := due_of_access stands (by simp) (by simp)
  refine ⟨truthful.checkedOut due idx, ?_⟩
  rw [credit, credit, stands]
  unfold checkedOut
  split
  · rw [cycles_close]
    show t.cycles + 1 + dp.ringing ≤ t.cycles + (1 + dp.ringing)
    omega
  · exact Nat.le_refl _

theorem books_of_next (truthful : dp.Truthful t) (taken : dp.next ring = some (dp', ring'))
    {found : Bool} (finds : found = decide (0 ≤ ring.latestReady)) :
    Books dp dp' t ((dp.ends found .next).elim t t.close) := by
  have ringing := dp.ringing_le
  cases stands : dp.loop <;> simp only [ends, stands]
  case drain events haveFrameSignal =>
      cases events with
      | cons source events => exact books_of_drain truthful stands taken
      | nil =>
          simp only [next, stands] at taken
          cases taken
          refine .of_goto truthful (due_of_access stands (by simp) (by simp)) ?_ ?_ ?_
          all_goals cases haveFrameSignal <;> simp [LoopPc.worth, stands]
  case checkout =>
      simp only [next, stands] at taken
      cases taken
      have books := books_of_checkout truthful stands ring.checkout.1
      have finds : found = decide (0 ≤ ring.checkout.1) := finds
      by_cases empty : ring.checkout.1 < 0
      · rw [if_pos empty] at books
        simpa [finds, Int.not_le.mpr empty] using books
      · rw [if_neg empty] at books
        simpa [finds, Int.not_lt.mp empty] using books
  case release writeTsNs rc nowNs =>
      simp only [next, stands] at taken
      cases taken
      refine .of_due truthful ?_ ?_
      · simp only [due, stands]
        exact dp.account_goto _ _ _ _
      · rw [credit, credit, stands]
        exact Nat.le_refl _
  case count writeTsNs rc nowNs =>
      simp only [next, stands] at taken
      cases taken
      refine .of_due truthful ?_ ?_
      · simp only [due, stands]
        rfl
      · rw [credit, credit, stands]
        unfold account
        split
        · exact Nat.le_refl _
        · exact Nat.le_refl _
  case top | woken | loadFrameId | loadWriteTs | loadPixels =>
      simp only [next, stands] at taken
      split at taken <;> cases taken
      all_goals
        refine .of_goto truthful (due_of_access stands (by simp) (by simp)) ?_ ?_ ?_
        all_goals grind [LoopPc.worth]
  all_goals
    simp only [next, stands] at taken
    cases taken

/-- `epoll_wait` reports `frame_fd` only when a signal waits in it. -/
theorem worth_of_reports {events : List Source} (reported : dp.reports events = true) :
    LoopPc.worth (.woken events) dp.ringing ≤ dp.ringing := by
  simp only [LoopPc.worth]
  split
  · rename_i signal
    simp only [reports, Bool.and_eq_true, List.all_eq_true, decide_eq_true_eq] at reported
    have waits : 0 < dp.frameFd := reported.2 .frameFd (List.contains_iff_mem.mp signal)
    exact Nat.le_of_eq (if_pos waits).symm
  · exact Nat.le_refl _

/-- The loop at one step: the statistics stay true, and a cycle that ends is paid for. -/
theorem books_of_step (truthful : dp.Truthful t) (taken : dp.step ring ev = some (dp', ring'))
    {found : Bool} (finds : found = decide (0 ≤ ring.latestReady)) :
    Books dp dp' t ((dp.ends found ev).elim t t.close) := by
  cases ev with
  | next => exact books_of_next truthful taken finds
  | wake events =>
      cases stands : dp.loop <;> simp only [step, stands] at taken
      case wait =>
          split at taken
          · rename_i reported
            cases taken
            simp only [ends, stands]
            refine .of_goto truthful (due_of_access stands (by simp) (by simp)) (by simp)
              (by simp) ?_
            rw [stands]
            exact worth_of_reports reported
          · cases taken
      all_goals cases taken
  | interrupted | broken =>
      cases stands : dp.loop <;> simp only [step, stands] at taken
      case wait =>
          cases taken
          simp only [ends, stands]
          refine .of_goto truthful (due_of_access stands (by simp) (by simp)) (by simp) (by simp) ?_
          rw [stands]
          exact Nat.le_refl _
      all_goals cases taken
  | blitted rc nowNs =>
      cases stands : dp.loop <;> simp only [step, stands] at taken
      case blit idx frameId writeTsNs =>
          cases taken
          simp only [ends, stands, Option.elim_some]
          refine ⟨truthful.account (due_of_access stands (by simp) (by simp)) writeTsNs rc nowNs
            (dp.account_goto _ _ _ _), ?_⟩
          rw [cycles_close, credit, credit, stands]
          show t.cycles + 1 + dp.ringing ≤ t.cycles + (1 + dp.ringing)
          omega
      all_goals cases taken

/-- One more signal is worth one more cycle at most. -/
theorem worth_le_succ (loop : LoopPc) {r r' : Nat} (more : r' ≤ r + 1) :
    loop.worth r' ≤ loop.worth r + 1 := by
  unfold LoopPc.worth
  split
  all_goals
    first
    | split <;> omega
    | omega

end DataPlane

namespace Feed

/-- The system with the record of its frames and its cycles. -/
def tallied : System ((Feed × Sighting) × Tally) FeedEvent :=
  sighted.record Tally.note

/-- What holds of a run so far: the statistics are true, the cycles are paid for, and a client
whose last publish is not signalled yet is about to signal it. -/
structure Balanced (x : (Feed × Sighting) × Tally) : Prop where
  accounts : Accounts x.1
  truthful : x.1.1.dataPlane.Truthful x.2
  paid : x.2.cycles + x.1.1.dataPlane.credit ≤ x.2.rung.length
  owed : ∀ c, x.2.published.count c =
    x.2.rung.count c + if (x.1.1.clients c).app = .signal then 1 else 0

variable {x y : (Feed × Sighting) × Tally} {ev : FeedEvent}

theorem balanced_boot (ids : Nat → ClientId) (modes : Nat → List RenderMode)
    (width height : UInt32) : Balanced ((boot ids modes width height, .none), .none) where
  accounts := accounts_boot ids modes width height
  truthful := ⟨rfl, rfl, rfl⟩
  paid := Nat.le_refl _
  owed _ := rfl

/-- A step of no concern to the books. -/
theorem Balanced.of_same (balanced : Balanced x) (accounts : Accounts y.1) (tally : y.2 = x.2)
    (stats : y.1.1.dataPlane.stats = x.1.1.dataPlane.stats)
    (loop : y.1.1.dataPlane.loop = x.1.1.dataPlane.loop)
    (frameFd : y.1.1.dataPlane.frameFd = x.1.1.dataPlane.frameFd)
    (silent : ∀ c, (y.1.1.clients c).app = .signal ↔ (x.1.1.clients c).app = .signal) :
    Balanced y where
  accounts := accounts
  truthful := by
    rw [tally]
    exact balanced.truthful.of_due (DataPlane.due_congr stats loop)
  paid := by
    rw [tally, DataPlane.credit, DataPlane.ringing, loop, frameFd]
    exact balanced.paid
  owed c := by
    rw [tally, balanced.owed c]
    simp only [silent]

@[simp] theorem signalled_stats (dp : DataPlane) (client : Client) :
    (signalled dp client).stats = dp.stats := by
  unfold signalled
  split <;> rfl

/-- Only one client has moved, and not to or from the write to the eventfd. -/
theorem silent_of_client {clients : Nat → Client} {c : Nat} {client : Client}
    (same : client.app = .signal ↔ (clients c).app = .signal) (d : Nat) :
    (Function.update clients c client d).app = .signal ↔ (clients d).app = .signal := by
  by_cases here : d = c
  · subst here
    simpa using same
  · simp [here]

/-- A publish is signalled next, a signal is counted, and nothing else is. -/
theorem balanced_app (balanced : Balanced x) {c : Nat} {choice : Choice}
    (taken : tallied.step x (.app c choice) = some y) : Balanced y := by
  obtain ⟨moved, noted⟩ := record_step.mp taken
  have accounts := accounts_step balanced.accounts moved
  obtain ⟨⟨client, ring⟩, went, after⟩ :=
    Option.map_eq_some_iff.mp (record_step.mp moved).1
  have clients : y.1.1.clients = Function.update x.1.1.clients c client := by rw [← after]; rfl
  have dataPlane : y.1.1.dataPlane = signalled x.1.1.dataPlane (x.1.1.clients c) := by rw [← after]
  obtain ⟨-, ⟨idx, generation, stands, goes, -⟩ | ⟨stands, goes, -⟩ | ⟨elsewhere, busy, goes, -⟩⟩ :=
    Client.appStep_signal went
  · have same : y.1.1.dataPlane = x.1.1.dataPlane := by
      rw [dataPlane, signalled_of_ne (by simp [stands])]
    have published : y.2 = { x.2 with published := x.2.published ++ [c] } := by
      simp [noted, Tally.note, stands]
    refine ⟨accounts, ?_, ?_, fun d => ?_⟩
    · rw [same, published]
      exact ⟨balanced.truthful.rendered, balanced.truthful.dropped, balanced.truthful.failed⟩
    · rw [same, published]
      exact balanced.paid
    · have owed := balanced.owed d
      rw [published, clients, List.count_append]
      by_cases here : d = c
      · subst here
        rw [if_neg (by simp [stands])] at owed
        rw [Function.update_self, if_pos goes, List.count_singleton_self]
        show _ + 1 = x.2.rung.count d + 1
        omega
      · rw [Function.update_of_ne here, List.count_singleton, if_neg (by simpa using Ne.symm here)]
        exact owed
  · have rung : y.2 = { x.2 with rung := x.2.rung ++ [c] } := by
      simp [noted, Tally.note, stands]
    refine ⟨accounts, ?_, ?_, fun d => ?_⟩
    · have same : y.1.1.dataPlane.due = x.1.1.dataPlane.due := by
        rw [dataPlane]
        exact DataPlane.due_congr (signalled_stats _ _) (signalled_loop _ _)
      rw [rung]
      exact ⟨same ▸ balanced.truthful.rendered, same ▸ balanced.truthful.dropped,
        same ▸ balanced.truthful.failed⟩
    · have more := DataPlane.worth_le_succ x.1.1.dataPlane.loop
        (Nat.le_trans y.1.1.dataPlane.ringing_le (Nat.le_add_left 1 x.1.1.dataPlane.ringing))
      have paid := balanced.paid
      rw [DataPlane.credit] at paid
      rw [rung, DataPlane.credit, dataPlane, signalled_loop, ← dataPlane, List.length_append]
      show x.2.cycles + _ ≤ x.2.rung.length + 1
      omega
    · have owed := balanced.owed d
      rw [rung, clients, List.count_append]
      by_cases here : d = c
      · subst here
        rw [if_pos stands] at owed
        rw [Function.update_self, if_neg goes, List.count_singleton_self]
        exact owed
      · rw [Function.update_of_ne here, List.count_singleton, if_neg (by simpa using Ne.symm here)]
        exact owed
  · have same : y.2 = x.2 := noted.trans (Tally.note_of_silent _ elsewhere busy)
    refine balanced.of_same accounts same ?_ ?_ ?_ ?_
    · rw [dataPlane, signalled_of_ne busy]
    · rw [dataPlane, signalled_of_ne busy]
    · rw [dataPlane, signalled_of_ne busy]
    · rw [clients]
      exact silent_of_client (iff_of_false goes busy)

/-- The loop finds the frame published last, unless it was evicted since. -/
theorem balanced_loop (balanced : Balanced x) {turn : LoopEvent}
    (taken : tallied.step x (.loop turn) = some y) : Balanced y := by
  obtain ⟨moved, noted⟩ := record_step.mp taken
  have accounts := accounts_step balanced.accounts moved
  obtain ⟨⟨dp, ring⟩, went, after⟩ := Option.map_eq_some_iff.mp (record_step.mp moved).1
  have dataPlane : y.1.1.dataPlane = dp := by rw [← after]
  have clients : y.1.1.clients = x.1.1.clients := by rw [← after]
  have finds : x.1.2.newest.isSome = decide (0 ≤ x.1.1.ring.latestReady) := by
    have newest : x.1.1.ring.latestReady = _ := balanced.accounts.newest
    rw [newest]
    cases x.1.2.newest <;> simp
  obtain ⟨truthful, paid⟩ := DataPlane.books_of_step balanced.truthful went finds
  have tally : y.2 = (x.1.1.dataPlane.ends x.1.2.newest.isSome turn).elim x.2 x.2.close := noted
  refine ⟨accounts, ?_, ?_, fun d => ?_⟩
  · rw [tally, dataPlane]
    exact truthful
  · rw [tally, Tally.settle_rung, dataPlane]
    exact Nat.le_trans paid balanced.paid
  · rw [tally, Tally.settle_rung, Tally.settle_published, clients]
    exact balanced.owed d

theorem balanced_step (balanced : Balanced x) (taken : tallied.step x ev = some y) :
    Balanced y := by
  obtain ⟨moved, noted⟩ := record_step.mp taken
  have accounts := accounts_step balanced.accounts moved
  have stepped := (record_step.mp moved).1
  cases ev with
  | app c choice => exact balanced_app balanced taken
  | loop turn => exact balanced_loop balanced taken
  | deliver c msg =>
      have after := Option.some.inj stepped
      refine balanced.of_same accounts noted (by rw [← after]; rfl) (by rw [← after]; rfl)
        (by rw [← after]; rfl) ?_
      rw [← after]
      refine silent_of_client ?_
      unfold Client.deliver
      split <;> exact Iff.rfl
  | hangUp c =>
      have after := Option.some.inj stepped
      refine balanced.of_same accounts noted (by rw [← after]; rfl) (by rw [← after]; rfl)
        (by rw [← after]; rfl) ?_
      rw [← after]
      exact silent_of_client Iff.rfl
  | control c ok now =>
      obtain ⟨client, went, after⟩ := Option.map_eq_some_iff.mp stepped
      refine balanced.of_same accounts noted (by rw [← after]; rfl) (by rw [← after]; rfl)
        (by rw [← after]; rfl) ?_
      rw [← after]
      apply silent_of_client
      rcases Client.app_of_controlStep (balanced.accounts.ready c).1 went with same |
        ⟨offline, ended | ended⟩
      · rw [same]
      · simp [offline, ended]
      · simp [offline, ended]
  | kick | evict | setMode | halt =>
      have after := Option.some.inj stepped
      refine balanced.of_same accounts noted ?_ ?_ ?_ ?_ <;> rw [← after]
      all_goals first | rfl | exact fun _ => Iff.rfl

/-- The statistics of the data plane are true in every state of every run, less a blit whose
cycle is not over yet: as many frames rendered as blits succeeded, as many dropped as wakeups
came with no frame published since the last eviction, as many errors as blits failed. Together
they never exceed the signals, and no client has signalled more often than it has published. -/
theorem truthful_of_run {ids : Nat → ClientId} {modes : Nat → List RenderMode}
    {width height : UInt32} {trace : List (((Feed × Sighting) × Tally) × FeedEvent)}
    (run : tallied.Run ((boot ids modes width height, .none), .none) trace x) :
    x.1.1.dataPlane.Truthful x.2 ∧ x.2.Covered := by
  have balanced : Balanced x :=
    run.invariant (C := fun _ _ => True) (fun _ _ => trivial) (balanced_boot ids modes width height)
      fun _ _ _ balanced _ => balanced_step balanced
  refine ⟨balanced.truthful, ?_, ?_⟩
  · exact Nat.le_trans (Nat.le_add_right _ _) balanced.paid
  · refine List.subperm_ext_iff.mpr fun c _ => ?_
    rw [balanced.owed c]
    exact Nat.le_add_right _ _

/-- A frame is rendered, and before its cycle is over the next one is published, signalled and
evicted: a cycle without a frame. -/
theorem truthful_of_run_evicted :
    ∃ trace x, tallied.Run
        ((boot (fun _ => .single 97) (fun _ => [⟨320, 240, 60⟩]) 320 240, .none), .none) trace x ∧
      trace.map Prod.snd =
        [.evict, .deliver 0 (.mode true ⟨320, 240, 60⟩), .deliver 0 (.activateGrant 1 5)] ++
          List.replicate 11 (.control 0 true ⟨0, 0⟩) ++ List.replicate 10 (.app 0 {}) ++
          [.loop .next, .loop (.wake [.frameFd])] ++ List.replicate 8 (.loop .next) ++
          [.loop (.blitted 0 9), .loop .next] ++ List.replicate 10 (.app 0 {}) ++ [.evict] ++
          List.replicate 2 (.loop .next) ++ [.loop (.wake [.frameFd])] ++
          List.replicate 5 (.loop .next) ∧
      x.1.1.dataPlane.Truthful x.2 ∧ x.2.Covered ∧ x.2 = ⟨[0, 0], [0, 0], 1, 1, 0⟩ ∧
      x.1.1.dataPlane.stats = ⟨1, 1, 0, 9⟩ := by
  refine Demonstrates.exists_run
    (P := fun _ x => x.2 = ⟨[0, 0], [0, 0], 1, 1, 0⟩ ∧ x.1.1.dataPlane.stats = ⟨1, 1, 0, 9⟩)
    (by decide +kernel) ?_
  rintro trace x run ⟨tally, stats⟩
  obtain ⟨truthful, covered⟩ := truthful_of_run run
  exact ⟨truthful, covered, tally, stats⟩

end Feed

end Wisp

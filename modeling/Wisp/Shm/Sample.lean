import Mathlib.Data.List.Forall2
import Wisp.Lib.Latest
import Wisp.Shm.Ring

/-!
# The data plane samples the latest frame

One producer and the data plane on the ring of one grant. Both take steps of the size of
the source: a section under the ring's mutex, one byte of pixels, one store or load of
metadata. The pixels a sink reads during a blit, in whatever order and how often, are
recorded with the blit.

What this adds up to is the register of `Latest`: a publish makes its frame the latest, a
checkout samples the latest frame, and a blit delivers it.
-/

namespace Wisp

open Transition System

/-- A frame as the producer hands it to `wisp_shm_ring_publish_slot`. -/
structure Frame where
  pixels : List UInt8
  frameId : UInt64
  writeTsNs : UInt64
  deriving DecidableEq

/-- What a blit took from the ring: the metadata, and the bytes the sink read with their
offsets. -/
structure Blit where
  frameId : UInt64
  writeTsNs : UInt64
  reads : List (Nat × UInt8)
  deriving DecidableEq

/-- Everything the blit took belongs to the frame. -/
def Blit.Shows (blit : Blit) (frame : Frame) : Prop :=
  blit.frameId = frame.frameId ∧ blit.writeTsNs = frame.writeTsNs ∧
    ∀ p ∈ blit.reads, frame.pixels[p.1]? = some p.2

/-- Where the producer stands: between frames, drawing into its claim, or at one of the
two steps left of `wisp_shm_ring_publish_slot`. `picture` is what the producer itself has
made of the buffer since it claimed it, and `frame` what it publishes; only
`writeTsNs` is an argument that a later step still needs. -/
inductive ProducerPc where
  | idle
  | drawing (idx : Buf) (picture : List UInt8)
  | storeWriteTs (idx : Buf) (frame : Frame)
  | publishLocked (idx : Buf) (frame : Frame)
  | aborted
  deriving DecidableEq

/-- Where the data plane stands after a checkout. -/
inductive DataPlanePc where
  | idle
  | loadFrameId (idx : Buf)
  | loadWriteTs (idx : Buf) (frameId : UInt64)
  | blit (idx : Buf) (taken : Blit)
  deriving DecidableEq

/-- The ring, its producer and the data plane, with the blits completed so far. -/
structure Pipeline where
  ring : Ring
  producer : ProducerPc
  dataPlane : DataPlanePc
  blits : List Blit

/-- One step of the producer or of the data plane. -/
inductive PipelineEvent where
  | writeSlot
  | draw (offset : Nat) (byte : UInt8)
  | publishSlot (frameId nowNs : UInt64)
  | storeWriteTs
  | publishLocked
  | checkout
  | loadFrameId
  | loadWriteTs
  | read (offset : Nat)
  | release (ok : Bool)

namespace Pipeline

/-- The buffer an index returned by `wisps_shm_ring_checkout` names. -/
def bufOf (idx : Int) : Option Buf :=
  (List.finRange numBuffers).find? fun i => (i.val : Int) == idx

/-- A step of the two threads. A blit with `ok = false` is one that the sink reported as
failed. -/
def step (p : Pipeline) : PipelineEvent → Option Pipeline
  | .writeSlot =>
      match p.producer with
      | .idle =>
          match p.ring.writeSlot with
          | some (idx, ring) => some { p with ring, producer := .drawing idx (ring.frameBufs idx) }
          | none => some { p with producer := .aborted }
      | _ => none
  | .draw offset byte =>
      match p.producer with
      | .drawing idx picture =>
          if offset < (p.ring.frameBufs idx).length then
            some { p with
              ring := p.ring.render idx ((p.ring.frameBufs idx).set offset byte)
              producer := .drawing idx (picture.set offset byte) }
          else none
      | _ => none
  | .publishSlot frameId nowNs =>
      match p.producer with
      | .drawing idx picture =>
          some { p with
            ring := p.ring.storeFrameId idx frameId
            producer := .storeWriteTs idx ⟨picture, frameId, nowNs⟩ }
      | _ => none
  | .storeWriteTs =>
      match p.producer with
      | .storeWriteTs idx frame =>
          some { p with
            ring := p.ring.storeWriteTs idx frame.writeTsNs
            producer := .publishLocked idx frame }
      | _ => none
  | .publishLocked =>
      match p.producer with
      | .publishLocked idx _ => some { p with ring := p.ring.publishLocked idx, producer := .idle }
      | _ => none
  | .checkout =>
      match p.dataPlane with
      | .idle =>
          let (idx, ring) := p.ring.checkout
          if idx < 0 then some { p with ring }
          else (bufOf idx).map fun idx => { p with ring, dataPlane := .loadFrameId idx }
      | _ => none
  | .loadFrameId =>
      match p.dataPlane with
      | .loadFrameId idx => some { p with dataPlane := .loadWriteTs idx (p.ring.frameId idx) }
      | _ => none
  | .loadWriteTs =>
      match p.dataPlane with
      | .loadWriteTs idx frameId =>
          some { p with dataPlane := .blit idx ⟨frameId, p.ring.writeTsNs idx, []⟩ }
      | _ => none
  | .read offset =>
      match p.dataPlane with
      | .blit idx taken =>
          (p.ring.frameBufs idx)[offset]?.map fun byte =>
            { p with
              dataPlane := .blit idx { taken with reads := taken.reads ++ [(offset, byte)] } }
      | _ => none
  | .release ok =>
      match p.dataPlane with
      | .blit _ taken =>
          some { p with
            ring := p.ring.release
            dataPlane := .idle
            blits := if ok then p.blits ++ [taken] else p.blits }
      | _ => none

/-- The pipeline as a transition system. -/
def system : System Pipeline PipelineEvent where
  step := step

/-- What a step means for the register of frames. -/
def action (p : Pipeline) : PipelineEvent → Option (Latest.Action Frame)
  | .publishLocked =>
      match p.producer with
      | .publishLocked _ frame => some (.publish frame)
      | _ => none
  | .checkout => some .sample
  | .release ok => some (if ok then .deliver else .discard)
  | _ => none

/-- The register after a step, as it should be. -/
def register (l : Latest Frame) (p : Pipeline) (ev : PipelineEvent) (_ : Pipeline) :
    Latest Frame :=
  match p.action ev with
  | some action => (l.step action).getD l
  | none => l

/-- The pipeline with the register it is meant to implement. -/
def sampling : System (Pipeline × Latest Frame) PipelineEvent :=
  system.record register

/-- The producer and the data plane start idle. -/
def start (ring : Ring) : Pipeline :=
  ⟨ring, .idle, .idle, []⟩

end Pipeline

/-- The buffer holds the frame with its metadata. -/
structure Ring.Stores (ring : Ring) (idx : Buf) (frame : Frame) : Prop where
  frameBufs : ring.frameBufs idx = frame.pixels
  frameId : ring.frameId idx = frame.frameId
  writeTsNs : ring.writeTsNs idx = frame.writeTsNs

namespace Ring.Stores

variable {ring : Ring} {idx other : Buf} {frame : Frame}

theorem render (stores : ring.Stores idx frame) (apart : idx ≠ other) (pixels : List UInt8) :
    (ring.render other pixels).Stores idx frame :=
  ⟨(Function.update_of_ne apart _ _).trans stores.frameBufs, stores.frameId, stores.writeTsNs⟩

theorem storeFrameId (stores : ring.Stores idx frame) (apart : idx ≠ other) (frameId : UInt64) :
    (ring.storeFrameId other frameId).Stores idx frame :=
  ⟨stores.frameBufs, (Function.update_of_ne apart _ _).trans stores.frameId, stores.writeTsNs⟩

theorem storeWriteTs (stores : ring.Stores idx frame) (apart : idx ≠ other) (nowNs : UInt64) :
    (ring.storeWriteTs other nowNs).Stores idx frame :=
  ⟨stores.frameBufs, stores.frameId, (Function.update_of_ne apart _ _).trans stores.writeTsNs⟩

end Ring.Stores

namespace Pipeline

/-- The claim is the producer's alone: neither the ready frame nor the one on display. -/
structure Claims (ring : Ring) (idx : Buf) : Prop where
  claimed : ring.clientLocked = (idx.val : Int)
  unready : ring.latestReady ≠ (idx.val : Int)
  unshown : ring.serverLocked ≠ (idx.val : Int)

/-- The producer's view of the ring is right. -/
def Draws (ring : Ring) : ProducerPc → Prop
  | .idle => ring.clientLocked = -1
  | .drawing idx picture => Claims ring idx ∧ ring.frameBufs idx = picture
  | .storeWriteTs idx frame =>
      Claims ring idx ∧ ring.frameBufs idx = frame.pixels ∧ ring.frameId idx = frame.frameId
  | .publishLocked idx frame => Claims ring idx ∧ ring.Stores idx frame
  | .aborted => False

/-- The ready frame is the one published last. -/
def Ready (ring : Ring) (l : Latest Frame) : Prop :=
  ring.latestReady = -1 ∧ l.published = [] ∨
    ∃ idx frame, ring.latestReady = (idx.val : Int) ∧ l.published.getLast? = some frame ∧
      ring.Stores idx frame

/-- The buffer is locked for the data plane and holds the frame sampled. -/
structure Samples (ring : Ring) (l : Latest Frame) (idx : Buf) (frame : Frame) : Prop where
  locked : ring.serverLocked = (idx.val : Int)
  stores : ring.Stores idx frame
  sampled : ∃ n, l.sampled = some n ∧ l.value n = some frame

/-- What the data plane has taken so far belongs to the frame it sampled. -/
def Reads (ring : Ring) (l : Latest Frame) : DataPlanePc → Prop
  | .idle => ring.serverLocked = -1 ∧ l.sampled = none
  | .loadFrameId idx => ∃ frame, Samples ring l idx frame
  | .loadWriteTs idx frameId => ∃ frame, Samples ring l idx frame ∧ frameId = frame.frameId
  | .blit idx taken => ∃ frame, Samples ring l idx frame ∧ taken.Shows frame

/-- The completed blits show the values delivered. -/
def Delivers (blits : List Blit) (l : Latest Frame) : Prop :=
  List.Forall₂ (fun blit n => ∃ frame, l.value n = some frame ∧ blit.Shows frame) blits l.delivered

/-- The ring, the two threads and the register agree. -/
structure Faithful (x : Pipeline × Latest Frame) : Prop where
  draws : Draws x.1.ring x.1.producer
  ready : Ready x.1.ring x.2
  reads : Reads x.1.ring x.2 x.1.dataPlane
  delivers : Delivers x.1.blits x.2

/-- The ring changed in one buffer only. -/
structure WritesOnly (idx : Buf) (ring ring' : Ring) : Prop where
  clientLocked : ring'.clientLocked = ring.clientLocked
  latestReady : ring'.latestReady = ring.latestReady
  serverLocked : ring'.serverLocked = ring.serverLocked
  stores : ∀ other frame, other ≠ idx → ring.Stores other frame → ring'.Stores other frame

section Writes

variable {ring ring' : Ring} {l l' : Latest Frame} {idx : Buf} {pc : DataPlanePc}

theorem writesOnly_render (pixels : List UInt8) : WritesOnly idx ring (ring.render idx pixels) :=
  ⟨rfl, rfl, rfl, fun _ _ apart stores => stores.render apart pixels⟩

theorem writesOnly_storeFrameId (frameId : UInt64) :
    WritesOnly idx ring (ring.storeFrameId idx frameId) :=
  ⟨rfl, rfl, rfl, fun _ _ apart stores => stores.storeFrameId apart frameId⟩

theorem writesOnly_storeWriteTs (nowNs : UInt64) :
    WritesOnly idx ring (ring.storeWriteTs idx nowNs) :=
  ⟨rfl, rfl, rfl, fun _ _ apart stores => stores.storeWriteTs apart nowNs⟩

theorem Claims.writes (claims : Claims ring idx) (writes : WritesOnly idx ring ring') :
    Claims ring' idx :=
  ⟨writes.clientLocked.trans claims.claimed, writes.latestReady ▸ claims.unready,
    writes.serverLocked ▸ claims.unshown⟩

/-- Writing into one's claim does not touch the ready frame. -/
theorem Ready.writes (ready : Ready ring l) (claims : Claims ring idx)
    (writes : WritesOnly idx ring ring') : Ready ring' l := by
  rcases ready with ⟨none, empty⟩ | ⟨other, frame, named, last, stores⟩
  · exact .inl ⟨writes.latestReady.trans none, empty⟩
  · have apart : other ≠ idx := by
      rintro rfl
      exact claims.unready named
    exact .inr ⟨other, frame, writes.latestReady.trans named, last,
      writes.stores other frame apart stores⟩

theorem Samples.writes {other : Buf} {frame : Frame} (samples : Samples ring l other frame)
    (claims : Claims ring idx) (writes : WritesOnly idx ring ring') :
    Samples ring' l other frame := by
  have apart : other ≠ idx := by
    rintro rfl
    exact claims.unshown samples.locked
  exact ⟨writes.serverLocked.trans samples.locked, writes.stores other frame apart samples.stores,
    samples.sampled⟩

/-- A change that keeps every sample keeps what was taken from it. -/
theorem Reads.mono (reads : Reads ring l pc)
    (idle : ring.serverLocked = -1 ∧ l.sampled = none → ring'.serverLocked = -1 ∧ l'.sampled = none)
    (samples : ∀ idx frame, Samples ring l idx frame → Samples ring' l' idx frame) :
    Reads ring' l' pc := by
  cases pc with
  | idle => exact idle reads
  | loadFrameId idx =>
      obtain ⟨frame, sampled⟩ := reads
      exact ⟨frame, samples idx frame sampled⟩
  | loadWriteTs idx frameId =>
      obtain ⟨frame, sampled, took⟩ := reads
      exact ⟨frame, samples idx frame sampled, took⟩
  | blit idx taken =>
      obtain ⟨frame, sampled, took⟩ := reads
      exact ⟨frame, samples idx frame sampled, took⟩

/-- The lock of the data plane does not matter to the producer as long as its claim stands. -/
theorem Draws.relock {producer : ProducerPc} (draws : Draws ring producer) {serverLocked : Int}
    (claims : ∀ other, Claims ring other → Claims { ring with serverLocked } other) :
    Draws { ring with serverLocked } producer := by
  cases producer with
  | idle => exact draws
  | drawing other picture => exact ⟨claims other draws.1, draws.2⟩
  | storeWriteTs other frame => exact ⟨claims other draws.1, draws.2⟩
  | publishLocked other frame =>
      exact ⟨claims other draws.1, ⟨draws.2.frameBufs, draws.2.frameId, draws.2.writeTsNs⟩⟩
  | aborted => exact draws

/-- Locking the ready frame for the data plane leaves the claim alone. -/
theorem Draws.locks {producer : ProducerPc} (draws : Draws ring producer)
    (named : ring.latestReady = (idx.val : Int)) :
    Draws { ring with serverLocked := (idx.val : Int) } producer :=
  draws.relock fun _ claims => ⟨claims.claimed, claims.unready, named ▸ claims.unready⟩

/-- So does releasing it. -/
theorem Draws.releases {producer : ProducerPc} (draws : Draws ring producer) :
    Draws ring.release producer :=
  draws.relock fun _ claims => ⟨claims.claimed, claims.unready, by dsimp only; omega⟩

/-- Nor the frame on display. -/
theorem Reads.writes (reads : Reads ring l pc) (claims : Claims ring idx)
    (writes : WritesOnly idx ring ring') : Reads ring' l pc :=
  reads.mono (fun idle => ⟨writes.serverLocked.trans idle.1, idle.2⟩)
    fun _ _ samples => samples.writes claims writes

end Writes

section Steps

variable {p q : Pipeline} {l : Latest Frame} {ev : PipelineEvent}

/-- The register moves with the step. -/
def Follows (p : Pipeline) (l : Latest Frame) (ev : PipelineEvent) (q : Pipeline) : Prop :=
  Faithful (q, register l p ev q) ∧
    ∀ action, p.action ev = some action → l.step action = some (register l p ev q)

/-- A step of the producer before its frame is published. -/
theorem follows_of_draws (faithful : Faithful (p, l)) (silent : p.action ev = none)
    {idx : Buf} (claims : Claims p.ring idx) {ring : Ring} {pc : ProducerPc}
    (writes : WritesOnly idx p.ring ring) (draws : Draws ring pc) :
    Follows p l ev { p with ring, producer := pc } := by
  refine ⟨?_, by simp [silent]⟩
  simp only [register, silent]
  exact ⟨draws, faithful.ready.writes claims writes, faithful.reads.writes claims writes,
    faithful.delivers⟩

/-- A step of the data plane within a blit. -/
theorem follows_of_reads (faithful : Faithful (p, l)) (silent : p.action ev = none)
    {pc : DataPlanePc} (reads : Reads p.ring l pc) :
    Follows p l ev { p with dataPlane := pc } := by
  refine ⟨?_, by simp [silent]⟩
  simp only [register, silent]
  exact ⟨faithful.draws, faithful.ready, reads, faithful.delivers⟩

theorem follows_writeSlot (faithful : Faithful (p, l)) (taken : p.step .writeSlot = some q) :
    Follows p l .writeSlot q := by
  simp only [step] at taken
  split at taken
  · rename_i idle
    have draws := faithful.draws
    simp only [idle, Draws] at draws
    split at taken
    · rename_i idx ring claimed
      cases taken
      have unready := Ring.writeSlot_unready claimed
      obtain ⟨-, unshown, rfl⟩ := Ring.writeSlot_spec claimed
      refine ⟨⟨⟨⟨rfl, unready.symm, unshown.symm⟩, rfl⟩, ?_, ?_, faithful.delivers⟩,
        by simp [action]⟩
      · rcases faithful.ready with empty | ⟨idx, frame, named, last, stores⟩
        · exact .inl empty
        · exact .inr ⟨idx, frame, named, last, ⟨stores.1, stores.2, stores.3⟩⟩
      · refine faithful.reads.mono id fun idx frame samples => ?_
        exact ⟨samples.locked, ⟨samples.stores.1, samples.stores.2, samples.stores.3⟩,
          samples.sampled⟩
    · rename_i aborts
      exact absurd draws ((Ring.writeSlot_eq_none_iff _).mp aborts)
  · cases taken

theorem follows_publishLocked (faithful : Faithful (p, l))
    (taken : p.step .publishLocked = some q) : Follows p l .publishLocked q := by
  simp only [step] at taken
  split at taken
  · rename_i idx frame stands
    cases taken
    have draws := faithful.draws
    simp only [stands, Draws] at draws
    obtain ⟨claims, stores⟩ := draws
    have publishes : p.action .publishLocked = some (.publish frame) := by simp [action, stands]
    refine ⟨?_, ?_⟩
    · simp only [register, publishes, Latest.step, Option.getD_some]
      refine ⟨rfl, .inr ⟨idx, frame, rfl, by simp, ⟨stores.1, stores.2, stores.3⟩⟩, ?_, ?_⟩
      · refine faithful.reads.mono id fun other frame samples => ?_
        obtain ⟨n, sampled, value⟩ := samples.sampled
        exact ⟨samples.locked, ⟨samples.stores.1, samples.stores.2, samples.stores.3⟩, n, sampled,
          Latest.value_publish value⟩
      · refine faithful.delivers.imp fun blit n shows => ?_
        obtain ⟨frame, value, shows⟩ := shows
        exact ⟨frame, Latest.value_publish value, shows⟩
    · intro action named
      cases publishes.symm.trans named
      simp [register, publishes, Latest.step]
  · cases taken

theorem bufOf_val (idx : Buf) : bufOf (idx.val : Int) = some idx := by
  revert idx
  decide

theorem follows_checkout (faithful : Faithful (p, l)) (taken : p.step .checkout = some q) :
    Follows p l .checkout q := by
  simp only [step] at taken
  split at taken
  · rename_i idle
    have reads := faithful.reads
    simp only [idle, Reads] at reads
    obtain ⟨unlocked, unsampled⟩ := reads
    rcases faithful.ready with ⟨none, empty⟩ | ⟨idx, frame, named, last, stores⟩
    · -- Nothing is published yet, and nothing changes.
      have none : p.ring.latestReady = -1 := none
      have empty : l.published = [] := empty
      simp only [Ring.checkout, none] at taken
      cases taken
      have sample : l.step .sample = some l := by simp [Latest.step, unsampled, empty]
      have same : register l p .checkout p = l := by simp [register, action, sample]
      refine ⟨?_, ?_⟩
      · show Faithful (p, register l p .checkout p)
        rw [same]
        exact faithful
      · rintro a ⟨⟩
        show l.step .sample = some (register l p .checkout p)
        rw [same, sample]
    · have named : p.ring.latestReady = (idx.val : Int) := named
      have last : l.published.getLast? = some frame := last
      have some : l.published ≠ [] := by
        intro empty
        simp [empty] at last
      have inRange : ¬ ((idx.val : Int) < 0) := by omega
      have checked : p.ring.checkout =
          ((idx.val : Int), { p.ring with serverLocked := (idx.val : Int) }) := by
        simp [Ring.checkout, named]
      simp only [checked, inRange, if_false, bufOf_val, Option.map_some, Option.some.injEq] at taken
      subst taken
      have sample : l.step .sample = .some { l with sampled := .some l.published.length } := by
        simp [Latest.step, unsampled, some]
      refine ⟨?_, ?_⟩
      · simp only [register, action, sample, Option.getD_some]
        refine ⟨?_, .inr ⟨idx, frame, named, last, ⟨stores.1, stores.2, stores.3⟩⟩, ?_, ?_⟩
        · exact faithful.draws.locks named
        · exact ⟨frame, rfl, ⟨stores.1, stores.2, stores.3⟩, _, rfl, Latest.value_length last⟩
        · exact faithful.delivers
      · rintro a ⟨⟩
        simp [register, action, sample]
  · cases taken

theorem follows_release {ok : Bool} (faithful : Faithful (p, l))
    (taken : p.step (.release ok) = some q) : Follows p l (.release ok) q := by
  simp only [step] at taken
  split at taken
  · rename_i idx blit stands
    cases taken
    have reads := faithful.reads
    simp only [stands, Reads] at reads
    obtain ⟨frame, samples, shows⟩ := reads
    obtain ⟨n, sampled, value⟩ := samples.sampled
    have ready {l' : Latest Frame} (same : l'.published = l.published) :
        Ready p.ring.release l' := by
      rcases faithful.ready with empty | ⟨idx, frame, named, last, stores⟩
      · exact .inl ⟨empty.1, same.trans empty.2⟩
      · exact .inr ⟨idx, frame, named, (congrArg _ same).trans last, ⟨stores.1, stores.2, stores.3⟩⟩
    cases ok with
    | false =>
        have discard : l.step .discard = some { l with sampled := none } := by
          simp [Latest.step, sampled]
        refine ⟨?_, ?_⟩
        · simp only [register, action, discard, Bool.false_eq_true, if_false, Option.getD_some]
          exact ⟨faithful.draws.releases, ready rfl, ⟨rfl, rfl⟩, faithful.delivers⟩
        · rintro a ⟨⟩
          simp [register, action, discard]
    | true =>
        have deliver : l.step .deliver =
            some { l with sampled := none, delivered := l.delivered ++ [n] } := by
          simp [Latest.step, sampled]
        refine ⟨?_, ?_⟩
        · simp only [register, action, deliver, if_true, Option.getD_some]
          refine ⟨faithful.draws.releases, ready rfl, ⟨rfl, rfl⟩, ?_⟩
          exact List.rel_append faithful.delivers (.cons ⟨frame, value, shows⟩ .nil)
        · rintro a ⟨⟩
          simp [register, action, deliver]
  · cases taken

theorem follows_of_step (faithful : Faithful (p, l)) (taken : p.step ev = some q) :
    Follows p l ev q := by
  have draws := faithful.draws
  have reads := faithful.reads
  cases ev with
  | writeSlot => exact follows_writeSlot faithful taken
  | publishLocked => exact follows_publishLocked faithful taken
  | checkout => exact follows_checkout faithful taken
  | release ok => exact follows_release faithful taken
  | draw offset byte =>
      simp only [step] at taken
      split at taken
      · rename_i idx picture stands
        simp only [stands, Draws] at draws
        obtain ⟨claims, rfl⟩ := draws
        split at taken
        · cases taken
          have writes : WritesOnly idx p.ring (p.ring.render idx _) :=
            writesOnly_render ((p.ring.frameBufs idx).set offset byte)
          refine follows_of_draws faithful rfl claims writes ⟨claims.writes writes, ?_⟩
          simp [Ring.render]
        · cases taken
      · cases taken
  | publishSlot frameId nowNs =>
      simp only [step] at taken
      split at taken
      · rename_i idx picture stands
        cases taken
        simp only [stands, Draws] at draws
        obtain ⟨claims, rfl⟩ := draws
        have writes : WritesOnly idx p.ring _ := writesOnly_storeFrameId frameId
        refine follows_of_draws faithful rfl claims writes ⟨claims.writes writes, rfl, ?_⟩
        simp [Ring.storeFrameId]
      · cases taken
  | storeWriteTs =>
      simp only [step] at taken
      split at taken
      · rename_i idx frame stands
        cases taken
        simp only [stands, Draws] at draws
        obtain ⟨claims, pixels, frameId⟩ := draws
        have writes : WritesOnly idx p.ring _ := writesOnly_storeWriteTs frame.writeTsNs
        refine follows_of_draws faithful rfl claims writes
          ⟨claims.writes writes, pixels, frameId, ?_⟩
        simp [Ring.storeWriteTs]
      · cases taken
  | loadFrameId =>
      simp only [step] at taken
      split at taken
      · rename_i idx stands
        cases taken
        simp only [stands, Reads] at reads
        obtain ⟨frame, samples⟩ := reads
        exact follows_of_reads faithful rfl ⟨frame, samples, samples.stores.frameId⟩
      · cases taken
  | loadWriteTs =>
      simp only [step] at taken
      split at taken
      · rename_i idx frameId stands
        cases taken
        simp only [stands, Reads] at reads
        obtain ⟨frame, samples, same⟩ := reads
        refine follows_of_reads faithful rfl ⟨frame, samples, same, samples.stores.writeTsNs, ?_⟩
        simp
      · cases taken
  | read offset =>
      simp only [step] at taken
      split at taken
      · rename_i idx blit stands
        obtain ⟨byte, found, rfl⟩ := Option.map_eq_some_iff.mp taken
        simp only [stands, Reads] at reads
        obtain ⟨frame, samples, frameId, writeTsNs, shows⟩ := reads
        refine follows_of_reads faithful rfl ⟨frame, samples, frameId, writeTsNs, ?_⟩
        intro pair member
        rcases List.mem_append.mp member with earlier | last
        · exact shows pair earlier
        · rw [List.mem_singleton.mp last, ← samples.stores.frameBufs]
          exact found
      · cases taken

end Steps

section Runs

variable {ring : Ring} {x y : Pipeline × Latest Frame} {ev : PipelineEvent}
variable {trace : List ((Pipeline × Latest Frame) × PipelineEvent)}

/-- Nothing is ready, locked or claimed. -/
structure Idle (ring : Ring) : Prop where
  latestReady : ring.latestReady = -1
  serverLocked : ring.serverLocked = -1
  clientLocked : ring.clientLocked = -1

theorem faithful_start (idle : Idle ring) : Faithful (start ring, .empty) :=
  ⟨idle.clientLocked, .inl ⟨idle.latestReady, rfl⟩, ⟨idle.serverLocked, rfl⟩, .nil⟩

theorem follows_sampling (faithful : Faithful x) (taken : sampling.step x ev = some y) :
    Faithful y ∧ ∀ action, x.1.action ev = some action → x.2.step action = some y.2 := by
  obtain ⟨moved, noted⟩ := record_step.mp taken
  obtain ⟨kept, steps⟩ := follows_of_step (l := x.2) faithful moved
  rw [← noted] at kept steps
  exact ⟨kept, steps⟩

/-- After the first publish a checkout returns a buffer. -/
def ChecksOut (x : Pipeline × Latest Frame) (ev : PipelineEvent) : Prop :=
  ev = .checkout → x.2.published ≠ [] →
    0 ≤ x.1.ring.checkout.1 ∧ x.1.ring.checkout.1 < (numBuffers : Int)

/-- `wisp_shm_ring_write_slot` returns. -/
def ClaimReturns (x : Pipeline × Latest Frame) (ev : PipelineEvent) : Prop :=
  ev = .writeSlot → x.1.ring.writeSlot ≠ none

theorem checksOut_of_faithful (faithful : Faithful x) : ChecksOut x ev := by
  rintro - published
  rcases faithful.ready with ⟨-, empty⟩ | ⟨idx, frame, named, -, -⟩
  · exact absurd empty published
  · have bound := idx.isLt
    simp only [Ring.checkout, named]
    omega

theorem claimReturns_of_faithful (faithful : Faithful x) (taken : sampling.step x ev = some y) :
    ClaimReturns x ev := by
  rintro rfl aborts
  obtain ⟨moved, -⟩ := record_step.mp taken
  have draws := faithful.draws
  change x.1.step .writeSlot = some y.1 at moved
  simp only [step] at moved
  split at moved
  · rename_i idle
    rw [idle] at draws
    exact (Ring.writeSlot_eq_none_iff _).mp aborts draws
  · cases moved

/-- The steps of the pipeline are steps of the register. -/
theorem latest_of_run (idle : Idle ring) (run : sampling.Run (start ring, .empty) trace x) :
    ∃ actions, (Latest.system Frame).Run .empty actions x.2 ∧
      actions.map Prod.snd = trace.filterMap fun p => p.1.1.action p.2 := by
  have kept : ∀ x ev y, Faithful x → True → sampling.step x ev = some y → Faithful y :=
    fun _ _ _ faithful _ taken => (follows_sampling faithful taken).1
  induction run with
  | nil => exact ⟨[], .nil, rfl⟩
  | @snoc trace s e t prior taken ih =>
      obtain ⟨actions, latest, labels⟩ := ih
      have faithful : Faithful s :=
        prior.invariant (C := fun _ _ => True) (fun _ _ => trivial) (faithful_start idle) kept
      have steps := (follows_sampling faithful taken).2
      cases labelled : s.1.action e with
      | none =>
          have same : t.2 = s.2 := by
            rw [(record_step.mp taken).2, register, labelled]
          refine ⟨actions, same ▸ latest, ?_⟩
          simp [labels, labelled]
      | some action =>
          refine ⟨actions ++ [(s.2, action)], .snoc latest (steps action labelled), ?_⟩
          simp [labels, labelled]

/-- The data plane samples the latest frame. A run of the producer and the data plane is a
run of the register, and its blits show, in order, the frames the register delivers: each
the last one published before the checkout of the blit. A checkout comes back empty only
before the first publish, and no claim aborts. -/
theorem samples_latest_of_run (idle : Idle ring)
    (run : sampling.Run (start ring, .empty) trace x) :
    (∃ actions, (Latest.system Frame).Run .empty actions x.2 ∧
        actions.map Prod.snd = trace.filterMap fun p => p.1.1.action p.2) ∧
      List.Forall₂ (fun blit n => ∃ frame, x.2.value n = some frame ∧ blit.Shows frame)
        x.1.blits x.2.delivered ∧
      x.2.delivered.Pairwise (· ≤ ·) ∧ Meets ChecksOut trace ∧ Meets ClaimReturns trace := by
  have always : Meets (fun _ _ => True) trace := fun _ _ => trivial
  have kept : ∀ x ev y, Faithful x → True → sampling.step x ev = some y → Faithful y :=
    fun _ _ _ faithful _ taken => (follows_sampling faithful taken).1
  obtain ⟨actions, latest, labels⟩ := latest_of_run idle run
  have ordered : x.2.Ordered := latest.invariant (C := fun _ _ => True) (fun _ _ => trivial)
    Latest.ordered_empty fun _ _ _ ordered _ taken => ordered.step taken
  refine ⟨⟨actions, latest, labels⟩, ?_, ordered.delivered, ?_, ?_⟩
  · exact (run.invariant always (faithful_start idle) kept).delivers
  · exact run.meets always (faithful_start idle) kept fun _ _ _ faithful _ _ =>
      checksOut_of_faithful faithful
  · exact run.meets always (faithful_start idle) kept fun _ _ _ faithful _ taken =>
      claimReturns_of_faithful faithful taken

/-- A fresh ring whose buffers hold two bytes. -/
def twoBytes : Ring :=
  { Ring.create with frameBufs := fun _ => [0, 0] }

/-- A frame is published while the one before it is on display, and is shown next. -/
theorem samples_latest_of_run_overlap :
    ∃ trace x, sampling.Run (start twoBytes, .empty) trace x ∧
      trace.map Prod.snd =
        [.checkout, .writeSlot, .draw 0 7, .draw 1 8, .publishSlot 1 100, .storeWriteTs,
          .publishLocked, .checkout, .writeSlot, .loadFrameId, .draw 0 9, .loadWriteTs, .read 1,
          .publishSlot 2 200, .storeWriteTs, .read 0, .publishLocked, .writeSlot, .draw 0 5,
          .release true, .checkout, .loadFrameId, .loadWriteTs, .read 0, .release true] ∧
      List.Forall₂ (fun blit n => ∃ frame, x.2.value n = some frame ∧ blit.Shows frame)
        x.1.blits x.2.delivered ∧ x.2.delivered = [1, 2] ∧
      x.1.blits = [⟨1, 100, [(1, 8), (0, 7)]⟩, ⟨2, 200, [(0, 9)]⟩] := by
  refine Demonstrates.exists_run (P := fun _ x => x.2.delivered = [1, 2] ∧
      x.1.blits = [⟨1, 100, [(1, 8), (0, 7)]⟩, ⟨2, 200, [(0, 9)]⟩]) (by decide +kernel) ?_
  rintro trace x run delivered
  exact ⟨(samples_latest_of_run ⟨rfl, rfl, rfl⟩ run).2.1, delivered⟩

end Runs

end Pipeline

end Wisp

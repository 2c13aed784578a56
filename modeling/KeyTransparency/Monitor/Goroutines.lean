import KeyTransparency.Monitor.Pairs
import Mathlib.Logic.Relation

/-! `ProcessLoop`'s three goroutines, interleaved: the streamer, the pairer (`EpochPairs`) and
the loop, which ranges over `pairs` and then reads `errc` twice. The channels are unbuffered,
so a send is one step taken together with its receive. -/
namespace KeyTransparency.Monitor

/-- `context.Canceled`, what `ctx.Err()` returns once the context is cancelled. -/
def canceled : Error := .external "context canceled"

/-- Modelled from the spec, as `mutCli.StreamEpochs` is not in the repository: the goroutine
that streams its epochs in order on `epochs` (`streaming`), may return at any point with any
error, closing `epochs`, and then sends that error on `errc` (`sendingErr`). -/
inductive Streamer where
  | streaming (epochs : List (Option Epoch))
  | sendingErr (err : Option Error)
  | exited
  deriving DecidableEq, Repr

/-- The goroutine that runs `EpochPairs(ctx, epochs, pairs)`: in `range epochs` holding
`epochA`, in the `select` between `<-ctx.Done()` and `pairs <- pair`, or returned and sending
its error on `errc`. -/
inductive Pairer where
  | ranging (epochA : Option Epoch)
  | selecting (pair : EpochPair)
  | sendingErr (err : Option Error)
  | exited
  deriving DecidableEq, Repr

/-- `ProcessLoop`'s own goroutine: in `range pairs`, in the body for `pair`, reading `errA` and
then `errB` from `errc`, or returned from the body (`failed`) or after both reads. -/
inductive Loop where
  | ranging
  | processing (pair : EpochPair)
  | receivingA
  | receivingB (errA : Option Error)
  | failed (err : Error)
  | returned (err : Option Error)
  deriving DecidableEq, Repr

def Streamer.hasReturned : Streamer → Bool
  | .streaming _ => false
  | _ => true

def Pairer.hasReturned : Pairer → Bool
  | .ranging _ | .selecting _ => false
  | _ => true

/-- `ProcessLoop` has returned, and its `defer cancel()` has run. -/
def Loop.hasReturned : Loop → Bool
  | .failed _ | .returned _ => true
  | _ => false

/-- The loop reading `err` from `errc`: `errA`, then `errB`, then
`if err := errA; err != nil { return err }; return errB`. -/
def Loop.receive : Loop → Option Error → Option Loop
  | .receivingA, err => some (.receivingB err)
  | .receivingB errA, errB => some (.returned (match errA with
    | some err => some err
    | none => errB))
  | _, _ => none

/-- The goroutines, the parent context, the store, and three history variables that no step
reads: the epochs the pairer has received, the pairs the loop has received, and the error
`StreamEpochs` returned. -/
structure State where
  streamer : Streamer
  pairer : Pairer
  loop : Loop
  cancelled : Bool
  /-- The `store.Set` calls that succeeded, in order. -/
  stored : List (Int64 × Result)
  delivered : List (Option Epoch)
  taken : List EpochPair
  /-- The error `StreamEpochs` returned, once it has. -/
  streamErr : Option Error
  deriving DecidableEq, Repr

/-- `cctx.Done()` is closed: the parent `ctx` is cancelled or `ProcessLoop` has returned
(`defer cancel()`). -/
def State.ctxDone (s : State) : Bool := s.cancelled || s.loop.hasReturned

/-- `ProcessLoop` right after its two `go` statements, on the streamer's `epochs`. -/
def start (epochs : List (Option Epoch)) : State where
  streamer := .streaming epochs
  pairer := .ranging none
  loop := .ranging
  cancelled := false
  stored := []
  delivered := []
  taken := []
  streamErr := none

/-- One step of one goroutine, a send taken together with its receive, or a cancellation of
the parent context. -/
inductive Step (mon : Monitor) : State → State → Prop
  /-- `epochs <- epoch` meets `range epochs` with `epochA == nil`: `epochA = epoch; continue`. -/
  | deliverFirst {s : State} {epoch epochs} :
      s.streamer = .streaming (epoch :: epochs) → s.pairer = .ranging none →
      Step mon s { s with streamer := .streaming epochs, pairer := .ranging epoch,
                          delivered := s.delivered ++ [epoch] }
  /-- `epochs <- epoch` meets `range epochs` with `epochA` set: the pair goes to the select. -/
  | deliverPair {s : State} {epoch epochs a} :
      s.streamer = .streaming (epoch :: epochs) → s.pairer = .ranging (some a) →
      Step mon s { s with streamer := .streaming epochs, pairer := .selecting ⟨some a, epoch⟩,
                          delivered := s.delivered ++ [epoch] }
  /-- `StreamEpochs` returns `err` and closes `epochs`. -/
  | streamReturn {s : State} {epochs err} :
      s.streamer = .streaming epochs → Step mon s { s with streamer := .sendingErr err, streamErr := err }
  /-- `range epochs` ends on the closed channel: `EpochPairs` returns nil, closing `pairs`. -/
  | epochsClosed {s : State} {epochA} :
      s.pairer = .ranging epochA → s.streamer.hasReturned →
      Step mon s { s with pairer := .sendingErr none }
  /-- The select's `pairs <- pair` meets `range pairs`; then `epochA = epoch`. -/
  | sendPair {s : State} {pair} :
      s.pairer = .selecting pair → s.loop = .ranging →
      Step mon s { s with pairer := .ranging pair.b, loop := .processing pair,
                          taken := s.taken ++ [pair] }
  /-- The select's `<-ctx.Done()`: `return ctx.Err()`, closing `pairs`. -/
  | pairerCanceled {s : State} {pair} :
      s.pairer = .selecting pair → s.ctxDone →
      Step mon s { s with pairer := .sendingErr (some canceled) }
  /-- The loop's body stores its result and ranges on. -/
  | store {s : State} {pair result} :
      s.loop = .processing pair → mon.processPair pair = .ok result →
      Step mon s { s with loop := .ranging, stored := s.stored ++ [(revisionOf pair.b, result)] }
  /-- The loop's body returns `err`. -/
  | fail {s : State} {pair err} :
      s.loop = .processing pair → mon.processPair pair = .error err →
      Step mon s { s with loop := .failed err }
  /-- `range pairs` ends on the closed channel. -/
  | pairsClosed {s : State} :
      s.loop = .ranging → s.pairer.hasReturned → Step mon s { s with loop := .receivingA }
  /-- The streamer's `errc <- err` meets one of the loop's reads. -/
  | streamerErrc {s : State} {err loop} :
      s.streamer = .sendingErr err → s.loop.receive err = some loop →
      Step mon s { s with streamer := .exited, loop := loop }
  /-- The pairer's `errc <- err` meets one of the loop's reads. -/
  | pairerErrc {s : State} {err loop} :
      s.pairer = .sendingErr err → s.loop.receive err = some loop →
      Step mon s { s with pairer := .exited, loop := loop }
  | cancel {s : State} : Step mon s { s with cancelled := true }

/-- The states `ProcessLoop` reaches when the streamer streams `epochs`. -/
def Reachable (mon : Monitor) (epochs : List (Option Epoch)) (s : State) : Prop :=
  Relation.ReflTransGen (Step mon) (start epochs) s

/-! ### Who reads `errc` -/

def State.exitedCount (s : State) : Nat :=
  (if s.streamer = .exited then 1 else 0) + (if s.pairer = .exited then 1 else 0)

def Loop.received : Loop → Nat
  | .receivingB _ => 1
  | .returned _ => 2
  | _ => 0

theorem Loop.received_receive {l l' : Loop} {err : Option Error} (h : l.receive err = some l') :
    l'.received = l.received + 1 := by
  cases l <;> simp [receive] at h <;> subst h <;> rfl

theorem Step.exitedCount {mon : Monitor} {s t : State} (h : Step mon s t)
    (hs : s.exitedCount = s.loop.received) : t.exitedCount = t.loop.received := by
  cases h with
  | streamerErrc h₁ h₂ | pairerErrc h₁ h₂ =>
    simp [State.exitedCount, Loop.received_receive h₂, h₁] at hs ⊢; omega
  | deliverFirst h₁ h₂ | deliverPair h₁ h₂ | sendPair h₁ h₂ =>
    simpa [State.exitedCount, Loop.received, h₁, h₂] using hs
  | streamReturn h₁ | epochsClosed h₁ | pairerCanceled h₁ | store h₁ | fail h₁ | pairsClosed h₁ =>
    simpa [State.exitedCount, Loop.received, h₁] using hs
  | cancel => exact hs

theorem Reachable.exitedCount {mon : Monitor} {epochs : List (Option Epoch)} {s : State}
    (h : Reachable mon epochs s) : s.exitedCount = s.loop.received := by
  induction h with
  | refl => rfl
  | tail _ hst ih => exact hst.exitedCount ih

section
variable {mon : Monitor} {epochs : List (Option Epoch)} {s t : State}

theorem State.exited_of_count {s : State} (h : s.exitedCount = 2) :
    s.streamer = .exited ∧ s.pairer = .exited := by
  simp only [State.exitedCount] at h
  split_ifs at h <;> simp_all

/-- The loop's reads of `errc` are the goroutines' last steps, so once it has read both, both
goroutines have exited. -/
theorem Reachable.returned_exited (h : Reachable mon epochs s) {err : Option Error}
    (hr : s.loop = .returned err) : s.streamer = .exited ∧ s.pairer = .exited :=
  State.exited_of_count (by rw [h.exitedCount, hr]; rfl)

/-! ### A return from the loop's body -/

theorem Step.failed (h : Step mon s t) {err : Error} (hf : s.loop = .failed err) :
    t.loop = .failed err ∧ (t.streamer = .exited ↔ s.streamer = .exited) ∧
      (t.pairer = .exited ↔ s.pairer = .exited) := by
  cases h <;> simp_all [Loop.receive]

theorem failed_run {err : Error} (hf : s.loop = .failed err)
    (h : Relation.ReflTransGen (Step mon) s t) :
    t.loop = .failed err ∧ (t.streamer = .exited ↔ s.streamer = .exited) ∧
      (t.pairer = .exited ↔ s.pairer = .exited) := by
  induction h with
  | refl => exact ⟨hf, .rfl, .rfl⟩
  | tail _ hst ih =>
    obtain ⟨h₁, h₂, h₃⟩ := hst.failed ih.1
    exact ⟨h₁, h₂.trans ih.2.1, h₃.trans ih.2.2⟩

/-- Once `ProcessLoop` has returned from its loop's body, neither goroutine exits, whatever
runs next: each is left blocked on `errc`, or on a channel only the other reads. -/
theorem Reachable.failed_never_exits (hs : Reachable mon epochs s) {err : Error}
    (hf : s.loop = .failed err) (ht : Relation.ReflTransGen (Step mon) s t) :
    t.streamer ≠ .exited ∧ t.pairer ≠ .exited := by
  have hc := hs.exitedCount
  obtain ⟨-, h₁, h₂⟩ := failed_run hf ht
  simp only [State.exitedCount, hf, Loop.received] at hc
  split_ifs at hc with ha hb <;> simp_all

/-! ### The interleaving refines the pipeline -/

def Pairer.pending : Pairer → List EpochPair
  | .selecting pair => [pair]
  | _ => []

def Loop.hasFailed : Loop → Bool
  | .failed _ => true
  | _ => false

/-- What the loop has stored, given the pairs it has received: `processPairs` of them, up to
the pair in its body. -/
def Loop.Agrees (mon : Monitor) (taken : List EpochPair) (stored : List (Int64 × Result)) :
    Loop → Prop
  | .processing pair => ∃ before, taken = before ++ [pair] ∧ mon.processPairs before = (stored, none)
  | .failed err => mon.processPairs taken = (stored, some err)
  | _ => mon.processPairs taken = (stored, none)

theorem Loop.agrees_receive {l l' : Loop} {err : Option Error} (h : l.receive err = some l')
    {taken : List EpochPair} {stored : List (Int64 × Result)} (ha : l.Agrees mon taken stored) :
    l'.Agrees mon taken stored := by
  cases l <;> simp [receive] at h <;> subst h <;> exact ha

theorem Loop.hasFailed_receive {l l' : Loop} {err : Option Error} (h : l.receive err = some l') :
    l.hasFailed = false ∧ l'.hasFailed = false := by
  cases l <;> simp [receive] at h <;> subst h <;> exact ⟨rfl, rfl⟩

/-- While the parent context is not cancelled and the loop's body has not returned, the
streamer sends on `errc` the error `StreamEpochs` returned and the pairer sends nil, so the
drain returns the streamer's error. -/
def State.ErrcAgrees (s : State) : Prop :=
  s.cancelled = false → s.loop.hasFailed = false →
    (∀ err, s.streamer = .sendingErr err → err = s.streamErr) ∧
    (∀ err, s.pairer = .sendingErr err → err = none) ∧
    (∀ errA, s.loop = .receivingB errA → errA = if s.streamer = .exited then s.streamErr else none) ∧
    (∀ err, s.loop = .returned err → err = s.streamErr)

/-- The invariant of every reachable state: the history variables agree with the goroutines'
states. -/
structure Inv (mon : Monitor) (epochs : List (Option Epoch)) (s : State) : Prop where
  /-- The pairer has received a prefix of the stream, and the streamer holds the rest. -/
  streamed : ∃ rest, s.delivered ++ rest = epochs
  streaming : ∀ rest, s.streamer = .streaming rest → s.delivered ++ rest = epochs
  /-- `epochA` is the last epoch received. -/
  ranging : ∀ epochA, s.pairer = .ranging epochA → epochAAfter none s.delivered = epochA
  selecting : ∀ pair, s.pairer = .selecting pair → epochAAfter none s.delivered = pair.b
  /-- The pairs formed: those the loop took, the one on offer, and one that a cancelled
  select dropped. -/
  paired : ∃ lost, epochPairs none s.delivered = s.taken ++ s.pairer.pending ++ lost ∧
    (lost ≠ [] → s.pairer.hasReturned ∧ (s.cancelled || s.loop.hasFailed))
  stored : s.loop.Agrees mon s.taken s.stored
  exited : s.exitedCount = s.loop.received
  errc : s.ErrcAgrees

theorem inv_start : Inv mon epochs (start epochs) where
  streamed := ⟨epochs, rfl⟩
  streaming _ h := by cases h; rfl
  ranging _ h := by cases h; rfl
  selecting _ h := by cases h
  paired := ⟨[], rfl, fun h => absurd rfl h⟩
  stored := rfl
  exited := rfl
  errc _ _ := ⟨fun _ h => (nomatch h), fun _ h => (nomatch h), fun _ h => (nomatch h), fun _ h => (nomatch h)⟩

theorem lost_eq_nil_of_running {lost : List EpochPair}
    (hl : lost ≠ [] → s.pairer.hasReturned ∧ (s.cancelled || s.loop.hasFailed))
    (hr : s.pairer.hasReturned = false) : lost = [] := by
  simpa [hr] using hl

namespace Inv

variable (hi : Inv mon epochs s)
include hi

theorem streamed_step (h : Step mon s t) : ∃ rest, t.delivered ++ rest = epochs := by
  cases h with
  | @deliverFirst _ rest h₁ _ => exact ⟨rest, by simpa using hi.streaming _ h₁⟩
  | @deliverPair _ rest _ h₁ _ => exact ⟨rest, by simpa using hi.streaming _ h₁⟩
  | _ => exact hi.streamed

theorem streaming_step (h : Step mon s t) :
    ∀ rest, t.streamer = .streaming rest → t.delivered ++ rest = epochs := by
  cases h with
  | deliverFirst h₁ | deliverPair h₁ => rintro _ ⟨⟩; simpa using hi.streaming _ h₁
  | streamReturn | streamerErrc => rintro _ ⟨⟩
  | _ => exact hi.streaming

theorem ranging_step (h : Step mon s t) :
    ∀ epochA, t.pairer = .ranging epochA → epochAAfter none t.delivered = epochA := by
  cases h with
  | deliverFirst => rintro _ ⟨⟩; exact epochAAfter_append_single ..
  | sendPair h₁ => rintro _ ⟨⟩; exact hi.selecting _ h₁
  | deliverPair | epochsClosed | pairerCanceled | pairerErrc => rintro _ ⟨⟩
  | _ => exact hi.ranging

theorem selecting_step (h : Step mon s t) :
    ∀ pair, t.pairer = .selecting pair → epochAAfter none t.delivered = pair.b := by
  cases h with
  | deliverPair => rintro _ ⟨⟩; exact epochAAfter_append_single ..
  | deliverFirst | epochsClosed | sendPair | pairerCanceled | pairerErrc => rintro _ ⟨⟩
  | _ => exact hi.selecting

theorem paired_step (h : Step mon s t) :
    ∃ lost, epochPairs none t.delivered = t.taken ++ t.pairer.pending ++ lost ∧
      (lost ≠ [] → t.pairer.hasReturned ∧ (t.cancelled || t.loop.hasFailed)) := by
  obtain ⟨lost, hp, hl⟩ := hi.paired
  cases h with
  | deliverFirst _ h₂ | deliverPair _ h₂ =>
    have := lost_eq_nil_of_running hl (by simp [h₂, Pairer.hasReturned])
    refine ⟨[], ?_, absurd rfl⟩
    simp_all [epochPairs_append_single, hi.ranging _ h₂, Pairer.pending, pairWith]
  | epochsClosed h₁ | sendPair h₁ =>
    have := lost_eq_nil_of_running hl (by simp [h₁, Pairer.hasReturned])
    exact ⟨[], by simpa [h₁, Pairer.pending, this] using hp, absurd rfl⟩
  | pairerCanceled h₁ h₂ =>
    have := lost_eq_nil_of_running hl (by simp [h₁, Pairer.hasReturned])
    refine ⟨_, by simpa [h₁, Pairer.pending, this] using hp, fun _ => ⟨rfl, ?_⟩⟩
    -- the context is done, and not by a return after the drain, as the pairer still runs
    have hr : s.loop.hasReturned → s.loop.hasFailed := by
      have hx := hi.exited
      cases hlp : s.loop <;>
        simp [hlp, Loop.hasReturned, Loop.hasFailed, State.exitedCount, Loop.received, h₁] at hx ⊢
      split_ifs at hx; omega
    simp only [State.ctxDone, Bool.or_eq_true] at h₂ ⊢
    exact h₂.imp_right hr
  | store h₁ | pairsClosed h₁ => exact ⟨lost, hp, by simpa [h₁, Loop.hasFailed] using hl⟩
  | fail => exact ⟨lost, hp, fun hne => ⟨(hl hne).1, by simp [Loop.hasFailed]⟩⟩
  | streamerErrc _ h₂ =>
    have hf := Loop.hasFailed_receive h₂
    exact ⟨lost, hp, fun hne => ⟨(hl hne).1, by simpa [hf] using (hl hne).2⟩⟩
  | pairerErrc h₁ h₂ =>
    have hf := Loop.hasFailed_receive h₂
    refine ⟨lost, by simpa [h₁, Pairer.pending] using hp, fun hne => ⟨rfl, ?_⟩⟩
    simpa [hf] using (hl hne).2
  | cancel => exact ⟨lost, hp, fun hne => ⟨(hl hne).1, rfl⟩⟩
  | streamReturn => exact ⟨lost, hp, hl⟩

theorem stored_step (h : Step mon s t) : t.loop.Agrees mon t.taken t.stored := by
  have ha := hi.stored
  cases h with
  | sendPair _ h₂ => rw [h₂] at ha; exact ⟨s.taken, rfl, ha⟩
  | store h₁ h₂ | fail h₁ h₂ =>
    rw [h₁] at ha
    obtain ⟨before, hb, hp⟩ := ha
    show mon.processPairs s.taken = _
    rw [hb, processPairs_append_single _ _ _ (by rw [hp]), hp, h₂]
  | pairsClosed h₁ => rw [h₁] at ha; exact ha
  | streamerErrc _ h₂ | pairerErrc _ h₂ => exact Loop.agrees_receive h₂ ha
  | _ => exact ha

theorem errc_step (h : Step mon s t) : t.ErrcAgrees := by
  intro hc hf
  have hx := hi.exited
  -- who has exited, from how many values the loop has read
  have hboth : ∀ err, s.loop = .returned err → s.streamer = .exited ∧ s.pairer = .exited :=
    fun _ hl => State.exited_of_count (by rw [hx, hl]; rfl)
  cases h with
  | cancel => cases hc
  | fail => cases hf
  | deliverFirst h₁ | deliverPair h₁ =>
    obtain ⟨-, -, h₃, h₄⟩ := hi.errc hc hf
    exact ⟨fun _ h => (nomatch h), fun _ h => (nomatch h), fun errA hl => by simpa [h₁] using h₃ errA hl, h₄⟩
  | streamReturn h₁ =>
    obtain ⟨-, h₂, h₃, -⟩ := hi.errc hc hf
    exact ⟨fun _ he => by cases he; rfl, h₂, fun errA hl => by simpa [h₁] using h₃ errA hl,
      fun err hl => absurd (hboth err hl).1 (by simp [h₁])⟩
  | epochsClosed =>
    obtain ⟨h₁, -, h₃, h₄⟩ := hi.errc hc hf
    exact ⟨h₁, fun _ he => by cases he; rfl, h₃, h₄⟩
  | sendPair _ hl =>
    obtain ⟨h₁, -, -, -⟩ := hi.errc hc (by simp [hl, Loop.hasFailed])
    exact ⟨h₁, fun _ h => (nomatch h), fun _ h => (nomatch h), fun _ h => (nomatch h)⟩
  | store hl | pairsClosed hl =>
    obtain ⟨h₁, h₂, -, -⟩ := hi.errc hc (by simp [hl, Loop.hasFailed])
    exact ⟨h₁, h₂, fun _ h => (nomatch h), fun _ h => (nomatch h)⟩
  | pairerCanceled h₁ h₂ =>
    -- the context is done only by a return, and after the drain the pairer has exited
    have hc' : s.cancelled = false := hc
    simp only [State.ctxDone, hc', Bool.false_or] at h₂
    cases hl : s.loop <;> simp [hl, Loop.hasReturned, Loop.hasFailed] at h₂ hf
    exact absurd (hboth _ hl).2 (by simp [h₁])
  | @streamerErrc err loop h₁ h₂ =>
    obtain ⟨h₁', h₂', h₃, -⟩ := hi.errc hc (Loop.hasFailed_receive h₂).1
    cases hl : s.loop <;> simp only [Loop.receive, hl, Option.some.injEq, reduceCtorEq] at h₂ <;> subst h₂
    · -- the first read: the streamer's error
      exact ⟨fun _ h => (nomatch h), h₂', fun _ he => by cases he; simpa using h₁' err h₁, fun _ h => (nomatch h)⟩
    · -- the second read: the first was the pairer's nil
      have := h₃ _ hl
      simp only [h₁, reduceCtorEq, if_false] at this
      exact ⟨fun _ h => (nomatch h), h₂', fun _ h => (nomatch h), fun _ he => by cases he; simp [this, h₁' err h₁]⟩
  | @pairerErrc err loop h₁ h₂ =>
    obtain ⟨h₁', h₂', h₃, -⟩ := hi.errc hc (Loop.hasFailed_receive h₂).1
    obtain rfl := h₂' err h₁
    cases hl : s.loop <;> simp only [Loop.receive, hl, Option.some.injEq, reduceCtorEq] at h₂ <;> subst h₂
    · -- the first read: nothing was read before, so the streamer still runs
      have hs : s.streamer ≠ .exited := by
        intro hs
        simp [State.exitedCount, Loop.received, hl, hs] at hx
      exact ⟨h₁', fun _ h => (nomatch h), fun _ he => by cases he; simp [hs], fun _ h => (nomatch h)⟩
    · -- the second read: the pairer had not exited, so the first was the streamer's
      have hs : s.streamer = .exited := by
        by_contra hs
        simp [State.exitedCount, Loop.received, hl, hs, h₁] at hx
      have := h₃ _ hl
      simp only [hs, if_true] at this
      exact ⟨h₁', fun _ h => (nomatch h), fun _ h => (nomatch h), fun _ he => by
        cases he; subst this; cases s.streamErr <;> rfl⟩

theorem step (h : Step mon s t) : Inv mon epochs t :=
  ⟨hi.streamed_step h, hi.streaming_step h, hi.ranging_step h, hi.selecting_step h,
    hi.paired_step h, hi.stored_step h, h.exitedCount hi.exited, hi.errc_step h⟩

end Inv

theorem Reachable.inv (h : Reachable mon epochs s) : Inv mon epochs s := by
  induction h with
  | refl => exact inv_start
  | tail _ hst ih => exact ih.step hst

namespace Inv

variable (hi : Inv mon epochs s)
include hi

theorem processLoop_failed {err : Error} (hf : s.loop = .failed err) :
    mon.processLoop s.delivered = (s.stored, some err) := by
  obtain ⟨lost, hp, -⟩ := hi.paired
  have ha : mon.processPairs s.taken = (s.stored, some err) := by
    simpa only [hf, Loop.Agrees] using hi.stored
  rw [processLoop, hp, List.append_assoc, processPairs_append_of_returned _ _ _ (by rw [ha]), ha]

theorem processLoop_returned {err : Option Error} (hr : s.loop = .returned err)
    (hc : s.cancelled = false) : mon.processLoop s.delivered = (s.stored, none) := by
  obtain ⟨lost, hp, hl⟩ := hi.paired
  have ha : mon.processPairs s.taken = (s.stored, none) := by
    simpa only [hr, Loop.Agrees] using hi.stored
  obtain ⟨-, hq⟩ := State.exited_of_count (by rw [hi.exited, hr]; rfl)
  -- nothing was lost: the parent was never cancelled and the body never returned
  have hlost : lost = [] := by
    by_contra hne
    simpa [hc, hr, Loop.hasFailed] using (hl hne).2
  rw [processLoop, hp, hq, hlost]
  simpa [Pairer.pending] using ha

end Inv

/-- Every run of the interleaved `ProcessLoop` refines the pipeline `processLoop` over the
epochs the pairer has received, a prefix of the stream. After a return from the loop's body,
the store holds exactly the pipeline's `Set`s and the error is the pipeline's; after a
return from the drain with the parent context never cancelled, the store holds the
pipeline's `Set`s, the pipeline ends without error, and `ProcessLoop` returns the error
`StreamEpochs` returned. -/
theorem Reachable.refines (h : Reachable mon epochs s) :
    (∃ rest, s.delivered ++ rest = epochs) ∧
    (∀ err, s.loop = .failed err → mon.processLoop s.delivered = (s.stored, some err)) ∧
    (∀ err, s.loop = .returned err → s.cancelled = false →
      mon.processLoop s.delivered = (s.stored, none) ∧ err = s.streamErr) :=
  ⟨h.inv.streamed, fun _ => h.inv.processLoop_failed, fun err hr hc =>
    ⟨h.inv.processLoop_returned hr hc, (h.inv.errc hc (by simp [hr, Loop.hasFailed])).2.2.2 err hr⟩⟩

/-! ### Every stream can be run through -/

/-- The error `ProcessLoop` returned from its loop's body, if it did. -/
def Loop.failure : Loop → Option Error
  | .failed err => some err
  | _ => none

/-- From a state between two epochs, with `rest` still to stream and the parent never
cancelled, some run streams `rest` and returns as the pipeline does on the whole stream,
having delivered all of it unless a pass failed. -/
theorem run_to_return (rest : List (Option Epoch)) (hs : Reachable mon epochs s)
    (h₁ : s.streamer = .streaming rest) (h₂ : ∃ epochA, s.pairer = .ranging epochA)
    (h₃ : s.loop = .ranging) (h₄ : s.cancelled = false) :
    ∃ t, Reachable mon epochs t ∧ t.cancelled = false ∧ t.loop.hasReturned ∧
      mon.processLoop epochs = (t.stored, t.loop.failure) ∧ (t.loop.failure = none → t.delivered = epochs) := by
  induction rest generalizing s with
  | nil =>
    -- the stream ends: both goroutines return, and the loop reads both errors
    obtain ⟨epochA, h₂⟩ := h₂
    have ht : Reachable mon epochs _ :=
      .tail (.tail (.tail (.tail (.tail hs (@Step.streamReturn _ _ _ none h₁)) (.epochsClosed h₂ rfl))
        (.pairsClosed h₃ rfl)) (.streamerErrc rfl rfl)) (.pairerErrc rfl rfl)
    have hd : s.delivered = epochs := by simpa using hs.inv.streaming _ h₁
    refine ⟨_, ht, h₄, rfl, ?_, fun _ => hd⟩
    rw [← hd]
    exact ht.inv.processLoop_returned rfl h₄
  | cons epoch rest ih =>
    obtain ⟨epochA, h₂⟩ := h₂
    cases epochA with
    | none => exact ih (hs.tail (.deliverFirst h₁ h₂)) rfl ⟨_, rfl⟩ h₃ h₄
    | some a =>
      have hp : Reachable mon epochs _ := .tail (hs.tail (.deliverPair h₁ h₂)) (.sendPair rfl h₃)
      cases hpair : mon.processPair ⟨some a, epoch⟩ with
      | ok result => exact ih (hp.tail (.store rfl hpair)) rfl ⟨_, rfl⟩ rfl h₄
      | error err =>
        -- the pass fails: the loop returns, and the rest of the stream is never paired
        have ht : Reachable mon epochs _ := hp.tail (.fail rfl hpair)
        refine ⟨_, ht, h₄, rfl, ?_, fun h => nomatch h⟩
        have hf := ht.inv.processLoop_failed rfl
        rw [← ht.inv.streaming _ rfl, processLoop, epochPairs_append,
          processPairs_append_of_returned _ _ _ (by rw [← processLoop, hf])]
        exact hf

end

/-- For every stream and every outcome of the monitor's calls, some interleaving of
`ProcessLoop` on the stream, with the parent context never cancelled, returns as the pipeline
does on the whole stream: from the loop's body with the error of the first failing pass, or,
when no pass fails, after the drain with the pipeline's `Set`s and the whole stream
delivered. -/
theorem processLoop_realized (mon : Monitor) (epochs : List (Option Epoch)) :
    ∃ s, Reachable mon epochs s ∧ s.cancelled = false ∧ s.loop.hasReturned ∧
      mon.processLoop epochs = (s.stored, s.loop.failure) ∧ (s.loop.failure = none → s.delivered = epochs) :=
  run_to_return epochs .refl rfl ⟨none, rfl⟩ rfl rfl

/-- A monitor whose calls all succeed and find nothing wrong. -/
def accepting : Monitor where
  epochMutations _ := .ok []
  verifyEpoch _ := []
  verifyMutations _ _ _ _ := []
  signMapRoot := .ok
  storeSet _ _ := .ok ()

/-- Two epochs, one pair processed, then both goroutines drained: the normal exit path. -/
theorem accepting_two_epochs_drained :
    ∃ s, Reachable accepting [some default, some default] s ∧ s.loop = .returned none ∧
      s.cancelled = false ∧ s.delivered = [some default, some default] :=
  ⟨_, .tail (.tail (.tail (.tail (.tail (.tail (.tail (.tail (.tail .refl
    (.deliverFirst rfl rfl)) (.deliverPair rfl rfl)) (.sendPair rfl rfl)) (.store rfl rfl))
    (@Step.streamReturn _ _ _ none rfl)) (.epochsClosed rfl rfl)) (.pairsClosed rfl rfl))
    (.streamerErrc rfl rfl)) (.pairerErrc rfl rfl), rfl, rfl, rfl⟩

theorem accepting_two_epochs_exited :
    ∃ s, Reachable accepting [some default, some default] s ∧ s.loop = .returned none ∧
      s.streamer = .exited ∧ s.pairer = .exited := by
  obtain ⟨s, hs, hr, -⟩ := accepting_two_epochs_drained
  exact ⟨s, hs, hr, Reachable.returned_exited hs hr⟩

theorem accepting_two_epochs_refines :
    ∃ s, Reachable accepting [some default, some default] s ∧ s.loop = .returned none ∧
      s.cancelled = false ∧ s.delivered = [some default, some default] ∧
      accepting.processLoop s.delivered = (s.stored, none) ∧ none = s.streamErr := by
  obtain ⟨s, hs, hr, hc, hd⟩ := accepting_two_epochs_drained
  exact ⟨s, hs, hr, hc, hd, (Reachable.refines hs).2.2 none hr hc⟩

/-- `accepting`, except that every `EpochMutations` fails. -/
def fetchFailing : Monitor :=
  { accepting with epochMutations := fun _ => .error (.external "unavailable") }

/-- Two epochs, and the fetch for the second fails: `ProcessLoop` returns, and from then on
neither goroutine ever exits. -/
theorem processLoop_fetch_failure_strands_goroutines :
    ∃ s, Reachable fetchFailing [some default, some default] s ∧
      s.loop = .failed (.external "unavailable") ∧
      ∀ t, Relation.ReflTransGen (Step fetchFailing) s t →
        t.streamer ≠ .exited ∧ t.pairer ≠ .exited := by
  have hs : Reachable fetchFailing [some default, some default] _ :=
    .tail (.tail (.tail (.tail .refl (.deliverFirst rfl rfl)) (.deliverPair rfl rfl))
      (.sendPair rfl rfl)) (.fail rfl rfl)
  exact ⟨_, hs, rfl, fun _ ht => hs.failed_never_exits rfl ht⟩

end KeyTransparency.Monitor

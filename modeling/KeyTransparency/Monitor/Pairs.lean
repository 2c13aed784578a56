import KeyTransparency.Proto

/-! The monitor's pipeline: `EpochPairs` pairs each epoch with the one before it, and
`ProcessLoop` fetches, verifies, signs and stores each pair in turn, returning at the first
fetch, signing or storage failure. Here the goroutines run as one pipeline with every send
taken; `Monitor.Goroutines` interleaves them. -/
namespace KeyTransparency

namespace Monitor

/-- `EpochPair`: two adjacent epochs. -/
structure EpochPair where
  a : Option Epoch
  b : Option Epoch
  deriving DecidableEq, Repr

/-- `monitorstorage.Result`; the time `Seen` is left out. -/
structure Result where
  smr : Option SignedMapRoot
  errors : List Error
  deriving DecidableEq, Repr

/-- `epoch.GetSmr()` on a possibly nil epoch. -/
def smrOf (e : Option Epoch) : Option SignedMapRoot := e.bind (·.smr)

def revisionOf (e : Option Epoch) : Int64 := ((smrOf e).map (·.mapRevision)).getD 0

/-- `EpochPairs` with every send taken: once `epochA` is non-nil, each epoch is paired with
the one before it; `epochA = epoch` on both branches. -/
def epochPairs : Option Epoch → List (Option Epoch) → List EpochPair
  | _, [] => []
  | none, epoch :: epochs => epochPairs epoch epochs
  | some a, epoch :: epochs => ⟨some a, epoch⟩ :: epochPairs epoch epochs

theorem epochPairs_some (a : Epoch) (es : List Epoch) :
    epochPairs (some a) (es.map some) = ((a :: es).zip es).map fun p => ⟨some p.1, some p.2⟩ := by
  induction es generalizing a with
  | nil => rfl
  | cons b es ih => simp only [List.map_cons, epochPairs, ih, List.zip_cons_cons]

theorem epochPairs_map_some (es : List Epoch) :
    epochPairs none (es.map some) = (es.zip es.tail).map fun p => ⟨some p.1, some p.2⟩ := by
  cases es with
  | nil => rfl
  | cons a es => exact epochPairs_some a es

/-- `epochA` once `EpochPairs` has ranged over `epochs`: the last of them. -/
def epochAAfter (epochA : Option Epoch) (epochs : List (Option Epoch)) : Option Epoch :=
  epochs.foldl (fun _ epoch => epoch) epochA

def pairWith : Option Epoch → Option Epoch → List EpochPair
  | none, _ => []
  | some a, epoch => [⟨some a, epoch⟩]

/-- The pairs of a stream cut in two: those of the first part, then those of the second
from the first part's last epoch. -/
theorem epochPairs_append (epochA : Option Epoch) (xs ys : List (Option Epoch)) :
    epochPairs epochA (xs ++ ys) = epochPairs epochA xs ++ epochPairs (epochAAfter epochA xs) ys := by
  induction xs generalizing epochA with
  | nil => cases epochA <;> rfl
  | cons e xs ih => cases epochA <;> simp [epochPairs, epochAAfter, ih]

theorem epochPairs_append_single (epochA : Option Epoch) (epochs : List (Option Epoch))
    (epoch : Option Epoch) :
    epochPairs epochA (epochs ++ [epoch]) =
      epochPairs epochA epochs ++ pairWith (epochAAfter epochA epochs) epoch := by
  rw [epochPairs_append]
  cases epochAAfter epochA epochs <;> cases epoch <;> rfl

theorem epochAAfter_append_single (epochA : Option Epoch) (epochs : List (Option Epoch))
    (epoch : Option Epoch) : epochAAfter epochA (epochs ++ [epoch]) = epoch := by
  simp [epochAAfter]

end Monitor

/-- `monitor.Monitor` through the calls `ProcessLoop` makes, taken abstractly. -/
structure Monitor where
  epochMutations : Option Epoch → Except Error (List MutationProof)
  verifyEpoch : Option Epoch → List Error
  /-- `m.verifyMutations(mutations, oldRoot, newRoot, mapID)`. -/
  verifyMutations : List MutationProof → Bytes → Bytes → Int64 → List Error
  signMapRoot : Option SignedMapRoot → Except Error (Option SignedMapRoot)
  /-- `m.store.Set(revision, result)`. -/
  storeSet : Int64 → Monitor.Result → Except Error Unit

namespace Monitor

variable (mon : Monitor)

/-- `VerifyEpochMutations`: the epoch's own checks, then the mutations from A's root to B's. -/
def verifyEpochMutations (epochA epochB : Option Epoch) (mutations : List MutationProof) :
    List Error :=
  let errs := mon.verifyEpoch epochB
  if errs.length > 0 then errs
  else
    let smrA := smrOf epochA
    let smrB := smrOf epochB
    let errs := mon.verifyMutations mutations ((smrA.map (·.rootHash)).getD [])
      ((smrB.map (·.rootHash)).getD []) ((smrB.map (·.mapId)).getD 0)
    if errs.length > 0 then errs else []

/-- One pass of `ProcessLoop`'s loop: the result it stores for the pair, or the error it
returns with. -/
def processPair (pair : EpochPair) : Except Error Result := do
  let revision := revisionOf pair.b
  let mutations ← mon.epochMutations pair.b
  let errs := mon.verifyEpochMutations pair.a pair.b mutations
  let result ← (if errs.length > 0 then pure ⟨none, errs⟩
    else do pure ⟨← mon.signMapRoot (smrOf pair.b), []⟩ : Except Error Result)
  (mon.storeSet revision result).mapError (.wrap "monitorstorage.Set")
  return result

/-- `ProcessLoop`'s loop over the pairs it receives: the `Set`s that succeed, in order, and
the error it returns with, if any. -/
def processPairs : List EpochPair → List (Int64 × Result) × Option Error
  | [] => ([], none)
  | pair :: pairs =>
    match mon.processPair pair with
    | .error e => ([], some e)
    | .ok result => (processPairs pairs).map ((revisionOf pair.b, result) :: ·) id

/-- `ProcessLoop` without cancellation: the streamer's epochs paired by `EpochPairs`, and
each pair processed in turn. -/
def processLoop (epochs : List (Option Epoch)) : List (Int64 × Result) × Option Error :=
  mon.processPairs (epochPairs none epochs)

/-! ### What one pass stores -/

/-- The result meant for the pair `(a, b)` once `b`'s mutations are fetched: the signed SMR
and no errors when `VerifyEpochMutations` finds none, otherwise no SMR and exactly its
errors. -/
def Intended (a b : Option Epoch) (mutations : List MutationProof) (result : Result) : Prop :=
  if mon.verifyEpochMutations a b mutations = [] then
    mon.signMapRoot (smrOf b) = .ok result.smr ∧ result.errors = []
  else result = ⟨none, mon.verifyEpochMutations a b mutations⟩

/-- The pass for `(a, b)` stores `result`: the fetch succeeds, `result` is the intended one,
and `Set` takes it. -/
def Stores (a b : Option Epoch) (result : Result) : Prop :=
  ∃ mutations, mon.epochMutations b = .ok mutations ∧ mon.Intended a b mutations result ∧
    mon.storeSet (revisionOf b) result = .ok ()

/-- The pass for `(a, b)` returns `e`: the fetch, the signing or the `Set` fails. -/
def FailsWith (a b : Option Epoch) (e : Error) : Prop :=
  mon.epochMutations b = .error e ∨
  ∃ mutations, mon.epochMutations b = .ok mutations ∧
    ((mon.verifyEpochMutations a b mutations = [] ∧ mon.signMapRoot (smrOf b) = .error e) ∨
     ∃ result e', mon.Intended a b mutations result ∧
       mon.storeSet (revisionOf b) result = .error e' ∧ e = .wrap "monitorstorage.Set" e')

private theorem result_eq_ok (a b : Option Epoch) (mutations : List MutationProof) (result : Result) :
    (if (mon.verifyEpochMutations a b mutations).length > 0 then
        (pure ⟨none, mon.verifyEpochMutations a b mutations⟩ : Except Error Result)
      else do pure ⟨← mon.signMapRoot (smrOf b), []⟩) = .ok result ↔
      mon.Intended a b mutations result := by
  rcases result with ⟨smr, errs⟩
  cases hv : mon.verifyEpochMutations a b mutations <;>
    cases hs : mon.signMapRoot (smrOf b) <;> simp [Intended, hv, hs, bind, Except.bind, pure, Except.pure, eq_comm]

theorem processPair_eq_ok (pair : EpochPair) (result : Result) :
    mon.processPair pair = .ok result ↔ mon.Stores pair.a pair.b result := by
  simp only [processPair, Except.bind_eq_ok, result_eq_ok, Except.mapError_eq_ok, Stores]
  simp [pure, Except.pure, Unique.exists_iff]

private theorem result_eq_error (a b : Option Epoch) (mutations : List MutationProof) (e : Error) :
    (if (mon.verifyEpochMutations a b mutations).length > 0 then
        (pure ⟨none, mon.verifyEpochMutations a b mutations⟩ : Except Error Result)
      else do pure ⟨← mon.signMapRoot (smrOf b), []⟩) = .error e ↔
      mon.verifyEpochMutations a b mutations = [] ∧ mon.signMapRoot (smrOf b) = .error e := by
  cases hv : mon.verifyEpochMutations a b mutations <;>
    cases hs : mon.signMapRoot (smrOf b) <;> simp [hv, hs, bind, Except.bind, pure, Except.pure]

theorem processPair_eq_error (pair : EpochPair) (e : Error) :
    mon.processPair pair = .error e ↔ mon.FailsWith pair.a pair.b e := by
  simp only [processPair, Except.bind_eq_error, Except.bind_eq_ok, result_eq_ok, result_eq_error,
    Except.mapError_eq_error, FailsWith]
  simp [pure, Except.pure]

/-! ### The loop -/

/-- The loop stores each pair's result, in order, up to the first pair whose pass fails, and
returns that pass's error. -/
theorem processPairs_spec (ps : List EpochPair) :
    ∃ k ≤ ps.length,
      List.Forall₂ (fun p s => s.1 = revisionOf p.b ∧ mon.processPair p = .ok s.2) (ps.take k)
        (mon.processPairs ps).1 ∧
      match ps[k]? with
      | none => (mon.processPairs ps).2 = none
      | some p => ∃ e, mon.processPair p = .error e ∧ (mon.processPairs ps).2 = some e := by
  induction ps with
  | nil => exact ⟨0, le_rfl, .nil, rfl⟩
  | cons p ps ih =>
    cases hp : mon.processPair p with
    | error e =>
      refine ⟨0, Nat.zero_le _, by simp [processPairs, hp], ?_⟩
      simp [processPairs, hp]
    | ok r =>
      obtain ⟨k, hk, hs, hr⟩ := ih
      refine ⟨k + 1, by simp [hk], ?_, ?_⟩
      · simp only [processPairs, hp, List.take_succ_cons]
        exact .cons ⟨rfl, hp⟩ hs
      · simpa [processPairs, hp] using hr

theorem processLoop_stores_until_failure (es : List Epoch) :
    ∃ k ≤ (es.zip es.tail).length,
      List.Forall₂ (fun (p : Epoch × Epoch) (s : Int64 × Result) =>
          s.1 = revisionOf (some p.2) ∧ mon.Stores (some p.1) (some p.2) s.2)
        ((es.zip es.tail).take k) (mon.processLoop (es.map some)).1 ∧
      match (es.zip es.tail)[k]? with
      | none => (mon.processLoop (es.map some)).2 = none
      | some p => ∃ e, mon.FailsWith (some p.1) (some p.2) e ∧
          (mon.processLoop (es.map some)).2 = some e := by
  unfold processLoop
  rw [epochPairs_map_some]
  obtain ⟨k, hk, hs, hr⟩ := mon.processPairs_spec ((es.zip es.tail).map fun p => ⟨some p.1, some p.2⟩)
  refine ⟨k, by simpa using hk, ?_, ?_⟩
  · rw [← List.map_take, List.forall₂_map_left_iff] at hs
    simpa only [processPair_eq_ok] using hs
  · rw [List.getElem?_map] at hr
    cases h : (es.zip es.tail)[k]? <;> simpa [h, processPair_eq_error] using hr

theorem processPairs_append_single (ps : List EpochPair) (p : EpochPair)
    (h : (mon.processPairs ps).2 = none) :
    mon.processPairs (ps ++ [p]) = match mon.processPair p with
      | .ok r => ((mon.processPairs ps).1 ++ [(revisionOf p.b, r)], none)
      | .error e => ((mon.processPairs ps).1, some e) := by
  induction ps with
  | nil => cases hp : mon.processPair p <;> simp [processPairs, hp]
  | cons q ps ih =>
    cases hq : mon.processPair q with
    | error e => simp [processPairs, hq] at h
    | ok r =>
      rw [List.cons_append]
      simp only [processPairs, hq] at h ⊢
      rw [ih h]
      cases mon.processPair p <;> rfl

theorem processPairs_append_of_returned (ps qs : List EpochPair) {e : Error}
    (h : (mon.processPairs ps).2 = some e) : mon.processPairs (ps ++ qs) = mon.processPairs ps := by
  induction ps with
  | nil => simp [processPairs] at h
  | cons q ps ih =>
    cases hq : mon.processPair q with
    | error e => simp [processPairs, hq]
    | ok r =>
      rw [List.cons_append]
      simp only [processPairs, hq] at h ⊢
      rw [ih h]

end Monitor
end KeyTransparency

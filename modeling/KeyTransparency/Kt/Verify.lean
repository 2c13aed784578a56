import KeyTransparency.Crypto
import Mathlib.Logic.Unique

/-! `Verifier.VerifyGetEntryResponse`: the six checks of a lookup response, in the
source's order, and what acceptance means for the response as a whole. -/
namespace KeyTransparency

namespace Verifier

/-- `VerifyGetEntryResponse`. The closing `trusted = in.GetLogRoot()` rebinds the local
pointer only: the caller's trusted root is read by `VerifyRoot` and never written. -/
def verifyGetEntryResponse (v : Verifier) (domainID appID userID : String)
    (trusted : SignedLogRoot) (r : GetEntryResponse) : Except Error Unit := do
  let e ← v.fromLeafValue r.leafValue
  if let some c := r.committed then
    (commitmentsVerify v.commit userID appID (commitmentOf e) c.data c.key).mapError
      (.wrap "commitments.Verify")
  let index ← v.index r.vrfProof domainID appID userID
  let some leafProof := r.leafProof | throw .nilProof
  (v.verifyMapInclusionProof r.smrOrZero.mapId index leafProof.leafValue r.smrOrZero.rootHash
    leafProof.inclusion).mapError (.wrap "VerifyMapInclusionProof()")
  let some smr := r.smr | throw .nilDereference
  (v.verifyObject { smr with signature := none } smr.signature).mapError (.wrap "sig.Verify(SMR)")
  (v.logVerifier.verifyRoot trusted r.logRoot r.logConsistency).mapError (.wrap "VerifyRoot")
  let trusted := r.logRoot
  let b ← (v.marshal smr).mapError (.wrap "json.Marshal()")
  (v.logVerifier.verifyInclusionAtIndex trusted b smr.mapRevision r.logInclusion).mapError
    (.wrap "VerifyInclusionAtIndex")

/-- The checks of spec 4.7 stated on the response: (i) a leaf proof whose value decodes,
(ii) the opening, (iii) map inclusion of that leaf at the VRF index, (iv) the SMR signature,
(v) the new log root, (vi) the SMR's encoding in that new root at its revision. -/
def ResponseChecks (v : Verifier) (domainID appID userID : String) (trusted : SignedLogRoot)
    (r : GetEntryResponse) : Prop :=
  ∃ lp e index smr b,
    (r.leafProof = some lp ∧ v.fromLeafValue lp.leafValue = .ok e) ∧
    (∀ c, r.committed = some c →
      commitmentsVerify v.commit userID appID (commitmentOf e) c.data c.key = .ok ()) ∧
    (v.index r.vrfProof domainID appID userID = .ok index ∧ r.smr = some smr ∧
      v.verifyMapInclusionProof smr.mapId index lp.leafValue smr.rootHash lp.inclusion = .ok ()) ∧
    v.verifyObject { smr with signature := none } smr.signature = .ok () ∧
    v.logVerifier.verifyRoot trusted r.logRoot r.logConsistency = .ok () ∧
    (v.marshal smr = .ok b ∧
      v.logVerifier.verifyInclusionAtIndex r.logRoot b smr.mapRevision r.logInclusion = .ok ())

private theorem verifyGetEntryResponse_eq_ok {v : Verifier} {domainID appID userID : String}
    {trusted : SignedLogRoot} {r : GetEntryResponse} :
    v.verifyGetEntryResponse domainID appID userID trusted r = .ok () ↔
      ResponseChecks v domainID appID userID trusted r := by
  rcases r with ⟨vrfProof, committed, leafProof, smr, logRoot, cons, incl⟩
  cases leafProof <;> cases smr <;> cases committed <;>
    simp [verifyGetEntryResponse, ResponseChecks, Except.bind_eq_ok, GetEntryResponse.leafValue,
      GetEntryResponse.smrOrZero, Unique.exists_iff, and_assoc]

theorem checks_of_verifyGetEntryResponse {v : Verifier} {domainID appID userID : String}
    {trusted : SignedLogRoot} {r : GetEntryResponse}
    (h : v.verifyGetEntryResponse domainID appID userID trusted r = .ok ()) :
    ResponseChecks v domainID appID userID trusted r :=
  verifyGetEntryResponse_eq_ok.mp h

theorem verifyGetEntryResponse_of_checks {v : Verifier} {domainID appID userID : String}
    {trusted : SignedLogRoot} {r : GetEntryResponse}
    (h : ResponseChecks v domainID appID userID trusted r) :
    v.verifyGetEntryResponse domainID appID userID trusted r = .ok () :=
  verifyGetEntryResponse_eq_ok.mpr h

/-- A response is accepted exactly when the six checks hold of it: each check reads the
objects the next one uses, the new log root included. -/
theorem verifyGetEntryResponse_iff_checks (v : Verifier) (domainID appID userID : String)
    (trusted : SignedLogRoot) (r : GetEntryResponse) :
    v.verifyGetEntryResponse domainID appID userID trusted r = .ok () ↔
      ResponseChecks v domainID appID userID trusted r :=
  ⟨checks_of_verifyGetEntryResponse, verifyGetEntryResponse_of_checks⟩

/-- Dropping the opening keeps a response accepted: without `committed` the commitment
step is skipped and nothing else reads the decoded entry. -/
theorem verifyGetEntryResponse_drop_committed {v : Verifier} {domainID appID userID : String}
    {trusted : SignedLogRoot} {r : GetEntryResponse}
    (h : v.verifyGetEntryResponse domainID appID userID trusted r = .ok ()) :
    v.verifyGetEntryResponse domainID appID userID trusted { r with committed := none } = .ok () := by
  obtain ⟨lp, e, index, smr, b, hl, -, rest⟩ := checks_of_verifyGetEntryResponse h
  exact verifyGetEntryResponse_of_checks ⟨lp, e, index, smr, b, hl, by simp, rest⟩

end Verifier
end KeyTransparency

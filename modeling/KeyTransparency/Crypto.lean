import KeyTransparency.Proto

/-! The collaborators the verifier calls, taken abstractly: the VRF, the sparse map's
inclusion check, object signatures, the append-only log, the leaf codec; one small executable
instance evaluates the model. -/
namespace KeyTransparency

/-- Trillian's `client.LogVerifier`. `verifyRoot` reads the caller's trusted root;
`verifyInclusionAtIndex` gets whatever root pointer it is handed. -/
structure LogVerifier where
  verifyRoot : SignedLogRoot → Option SignedLogRoot → List Bytes → Except Error Unit
  verifyInclusionAtIndex : Option SignedLogRoot → Bytes → Int64 → List Bytes → Except Error Unit

/-- Modelled from the spec: `commitments.Verify` (spec 4.1) recomputes the commitment
and compares it with the one given. -/
def commitmentsVerify (commit : String → String → Bytes → Bytes → Bytes)
    (userID appID : String) (commitment data nonce : Bytes) : Except Error Unit :=
  if commitment = commit userID appID data nonce then .ok () else .error (.external "commitment mismatch")

theorem commitmentsVerify_eq_ok {commit : String → String → Bytes → Bytes → Bytes}
    {userID appID : String} {commitment data nonce : Bytes} :
    commitmentsVerify commit userID appID commitment data nonce = .ok () ↔
      commitment = commit userID appID data nonce := by
  unfold commitmentsVerify; split <;> simp_all

/-- `kt.Verifier` together with the package functions `VerifyGetEntryResponse` calls. -/
structure Verifier where
  /-- `entry.FromLeafValue`: the decoded entry, nil for a leaf with no value. -/
  fromLeafValue : Bytes → Except Error (Option Entry)
  /-- `commitments.Commit(userID, appID, data, nonce)`. -/
  commit : String → String → Bytes → Bytes → Bytes
  /-- `v.Index(vrfProof, domainID, appID, userID)`: the VRF output, checked against its proof. -/
  index : Bytes → String → String → String → Except Error Bytes
  /-- `merkle.VerifyMapInclusionProof(mapID, index, leaf, expectedRoot, proof, v.hasher)`. -/
  verifyMapInclusionProof : Int64 → Bytes → Bytes → Bytes → List Bytes → Except Error Unit
  verifyObject : SignedMapRoot → Option DigitallySigned → Except Error Unit
  marshal : SignedMapRoot → Except Error Bytes
  logVerifier : LogVerifier

/-- The commitment field of a decoded entry, `e.GetCommitment()`. -/
def commitmentOf (e : Option Entry) : Bytes := (e.map (·.commitment)).getD []

namespace LogVerifier

/-- An executable log verifier: bootstrap at size zero, equal sizes compare hashes, a larger
size needs the proof `[old hash, new hash]`. -/
def sample : LogVerifier where
  verifyRoot trusted new proof :=
    match new with
    | none => .error (.external "nil root")
    | some new =>
      if trusted.treeSize.val = 0 then .ok ()
      else if new.treeSize.val < trusted.treeSize.val then .error (.external "rewind")
      else if new.treeSize = trusted.treeSize then
        if new.rootHash = trusted.rootHash then .ok () else .error (.external "fork")
      else if proof = [trusted.rootHash, new.rootHash] then .ok () else .error (.external "consistency")
  verifyInclusionAtIndex root leaf _ proof :=
    if root.isSome ∧ proof = [leaf] then .ok () else .error (.external "inclusion")

end LogVerifier

/-- An executable verifier: a nonempty leaf decodes to an entry holding it as its commitment,
the VRF proof is the index, a one-leaf map has root `index ++ leaf`, and the map key signs
an SMR by its root hash. -/
def Verifier.sample : Verifier where
  fromLeafValue b := .ok (if b = [] then none else some { (default : Entry) with commitment := b })
  commit _ _ data nonce := 1 :: (data ++ nonce)
  index proof _ _ _ := .ok proof
  verifyMapInclusionProof _ index leaf root _ :=
    if root = index ++ leaf then .ok () else .error (.external "map inclusion")
  verifyObject smr sig := if sig = some ⟨smr.rootHash⟩ then .ok () else .error (.external "signature")
  marshal smr := .ok smr.rootHash
  logVerifier := LogVerifier.sample

end KeyTransparency

import KeyTransparency.Kt.Verify

/-! `grpcc.Client` and its lookup: the client keeps one trusted log root, and every call
verifies the server's reply against it before anything is returned. -/
namespace KeyTransparency.Grpcc

/-- `grpcc.Client`: the domain, the verifier, the retry budget and the trusted log root.
The RPC stub is replaced by the server's replies, which each call takes as input. -/
structure Client where
  domainID : String
  kt : Verifier
  retryCount : Int64
  trusted : SignedLogRoot

namespace Client

/-- `New`: one retry, and the zero log root as the trusted root. -/
def new (domainID : String) (kt : Verifier) : Client :=
  { domainID, kt, retryCount := 1, trusted := default }

def getEntryRequest (c : Client) (userID appID : String) : GetEntryRequest :=
  { domainId := c.domainID, userId := userID, appId := appID, firstTreeSize := c.trusted.treeSize }

/-- `GetEntry` on the server's reply: the profile, empty when the reply carries no
opening, and the SMR, once the reply has been verified against `c.trusted`. -/
def getEntry (c : Client) (userID appID : String) (reply : Except Error GetEntryResponse) :
    Except Error (Bytes × Option SignedMapRoot) := do
  let e ← reply
  c.kt.verifyGetEntryResponse c.domainID appID userID c.trusted e
  if e.committed = none then return ([], e.smr)
  return (e.profile, e.smr)

theorem getEntry_eq_ok {c : Client} {userID appID : String} {reply : Except Error GetEntryResponse}
    {p : Bytes} {smr : Option SignedMapRoot} :
    c.getEntry userID appID reply = .ok (p, smr) ↔ ∃ e, reply = .ok e ∧
      c.kt.verifyGetEntryResponse c.domainID appID userID c.trusted e = .ok () ∧
      e.profile = p ∧ e.smr = smr := by
  cases reply with
  | error => simp [getEntry, bind, Except.bind]
  | ok e =>
    cases h : c.kt.verifyGetEntryResponse c.domainID appID userID c.trusted e <;>
      cases hc : e.committed <;>
      simp_all [getEntry, bind, Except.bind, pure, Except.pure, GetEntryResponse.profile]

/-- Whenever `GetEntry` returns a profile, the same reply with its opening dropped makes it
return the empty profile with no error, whatever entry the leaf holds. -/
theorem getEntry_empty_profile_without_opening {c : Client} {userID appID : String}
    {r : GetEntryResponse} {p : Bytes} {smr : Option SignedMapRoot}
    (h : c.getEntry userID appID (.ok r) = .ok (p, smr)) :
    c.getEntry userID appID (.ok { r with committed := none }) = .ok ([], smr) := by
  obtain ⟨e, he, hv, -, rfl⟩ := getEntry_eq_ok.mp h
  cases he
  exact getEntry_eq_ok.mpr ⟨_, rfl, Verifier.verifyGetEntryResponse_drop_committed hv, rfl, rfl⟩

/-- A reply for the sample verifier: the leaf `[1, 7, 8]` commits to the profile `[7]` under
the nonce `[8]` in a one-leaf map at revision 7, logged in a root of size 5. -/
def sampleReply : GetEntryResponse where
  vrfProof := [9]
  committed := some { key := [8], data := [7] }
  leafProof := some { leafValue := [1, 7, 8], inclusion := [] }
  smr := some
    { timestampNanos := 0, rootHash := [9, 1, 7, 8], metadata := []
      signature := some ⟨[9, 1, 7, 8]⟩, mapId := 0, mapRevision := 7 }
  logRoot := some { timestampNanos := 0, rootHash := [3], treeSize := 5, signature := none, logId := 0 }
  logConsistency := []
  logInclusion := [[9, 1, 7, 8]]

/-- The reply's leaf `[1, 7, 8]` holds an entry, whose profile `GetEntry` returns as `[7]`; sent
without its opening, the reply is still accepted and `GetEntry` returns a nil profile with a nil
error, as for a proof of absence. -/
theorem getEntry_accepts_present_leaf_without_opening :
    (new "example.com" Verifier.sample).getEntry "alice" "app" (.ok sampleReply) = .ok ([7], sampleReply.smr) ∧
      Verifier.sample.fromLeafValue sampleReply.leafValue ≠ .ok none ∧
      Verifier.sample.verifyGetEntryResponse "example.com" "app" "alice" default
        { sampleReply with committed := none } = .ok () ∧
      (new "example.com" Verifier.sample).getEntry "alice" "app" (.ok { sampleReply with committed := none }) =
        .ok ([], sampleReply.smr) :=
  ⟨rfl, by simp [Verifier.sample, GetEntryResponse.leafValue, sampleReply], rfl,
    getEntry_empty_profile_without_opening rfl⟩

end Client
end KeyTransparency.Grpcc

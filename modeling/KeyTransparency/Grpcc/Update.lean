import KeyTransparency.Grpcc.History
import KeyTransparency.Mutator.Mutation

/-! `Client.Update` and `Client.Retry`, and the client driven through any sequence of calls.
No call writes the client's fields: the trusted root a client is built with is the one every
later verification reads. -/
namespace KeyTransparency.Grpcc
open Mutator

/-- What `Update` and `Retry` call outside these files: the `entry` package, `m.Check`,
and the `kt` helper `NewMutation`. -/
structure UpdateLib where
  entry : EntryLib
  /-- `m.Check(leaf)`: whether the leaf holds the requested entry. -/
  check : Mutation → Bytes → Except Error Bool
  /-- `c.kt.NewMutation(domainID, appID, userID, profileData, authorizedKeys, vrfProof, oldLeaf)`. -/
  newMutation : String → String → String → Bytes → List PublicKey → Bytes → Bytes → Except Error Mutation

/-- An executable library for `Update`: the sample entry library; `m.Check` decodes the leaf
and compares it with the mutation's entry; `NewMutation` points a new mutation at the old leaf,
copying it, commits to the profile under the nonce `[8]` and sets the keys. -/
def UpdateLib.sample : UpdateLib where
  entry := EntryLib.sample
  check m leaf := (EntryLib.sample.fromLeafValue leaf).map (· = some m.entry)
  newMutation domainID appID userID data keys _ leaf := do
    let m ← (Mutation.new EntryLib.sample [9] domainID appID userID).setPrevious EntryLib.sample leaf true
    let m ← m.setCommitment EntryLib.sample data (.ok [8])
    m.replaceAuthorizedKeys keys

namespace Client

/-- `Retry`: sign and send the mutation, verify the server's proof against `c.trusted`, and
point the mutation at the leaf the server now holds; `ErrRetry` until it holds the request. -/
def retry (c : Client) (lib : UpdateLib) (m : Mutation) (signers : List Signer)
    (reply : Except Error UpdateEntryResponse) : Mutation × Except Error Unit :=
  match m.serializeAndSign lib.entry signers c.trusted.treeSize with
  | (m, .error e) => (m, .error (.wrap "SerializeAndSign()" e))
  | (m, .ok req) =>
    match reply with
    | .error e => (m, .error (.wrap "cli.UpdateEntry()" e))
    | .ok updateResp =>
      match c.kt.verifyGetEntryResponse c.domainID req.appId req.userId c.trusted updateResp.proof with
      | .error e => (m, .error (.wrap "VerifyGetEntryResponse()" e))
      | .ok () =>
        match lib.check m updateResp.proof.leafValue with
        | .error e => (m, .error (.wrap "mutation.Check()" e))
        | .ok equal =>
          match m.setPrevious lib.entry updateResp.proof.leafValue false with
          | .error e => (m, .error (.wrap "mutation.SetPrevious()" e))
          | .ok m => (m, if equal then .ok () else .error .retry)

/-- The retry loop of `Update`: `Retry` once, then again while it says `ErrRetry`, at most
`n` more times, one server reply each; `none` when the replies run out first. -/
def retryLoop (c : Client) (lib : UpdateLib) (signers : List Signer) :
    Nat → Mutation → List (Except Error UpdateEntryResponse) → Option (Mutation × Except Error Unit)
  | _, _, [] => none
  | n, m, reply :: replies =>
    match c.retry lib m signers reply, n with
    | (m, .error .retry), n + 1 => c.retryLoop lib signers n m replies
    | r, _ => some r

/-- The mutations the retry loop of `Update` hands `Retry`, in order: the first, then the one
each `ErrRetry` left while retries remain. -/
def retryAttempts (c : Client) (lib : UpdateLib) (signers : List Signer) :
    Nat → Mutation → List (Except Error UpdateEntryResponse) → List Mutation
  | _, _, [] => []
  | n, m, reply :: replies =>
    match c.retry lib m signers reply, n with
    | (m', .error .retry), n + 1 => m :: c.retryAttempts lib signers n m' replies
    | _, _ => [m]

/-- `Update`: fetch and verify the current entry, build the mutation, then run the retry
loop with `RetryCount` retries. -/
def update (c : Client) (lib : UpdateLib) (appID userID : String) (profileData : Bytes)
    (signers : List Signer) (authorizedKeys : List PublicKey) (getReply : Except Error GetEntryResponse)
    (updateReplies : List (Except Error UpdateEntryResponse)) : Option (Option Mutation × Except Error Unit) :=
  match getReply with
  | .error e => some (none, .error (.wrap "GetEntry" e))
  | .ok getResp =>
    match c.kt.verifyGetEntryResponse c.domainID appID userID c.trusted getResp with
    | .error e => some (none, .error (.wrap "VerifyGetEntryResponse()" e))
    | .ok () =>
      match lib.newMutation c.domainID appID userID profileData authorizedKeys getResp.vrfProof
          getResp.leafValue with
      | .error e => some (none, .error (.wrap "CreateUpdateEntryRequest" e))
      | .ok m => (c.retryLoop lib signers c.retryCount.val.toNat m updateReplies).map
          fun r => (some r.1, r.2)

theorem retryLoop_cons (c : Client) (lib : UpdateLib) (signers : List Signer) (n : Nat)
    (m : Mutation) (reply : Except Error UpdateEntryResponse) :
    (∃ r, ∀ rest, c.retryLoop lib signers n m (reply :: rest) = some r) ∨
      ∃ k m', n = k + 1 ∧ ∀ rest, c.retryLoop lib signers n m (reply :: rest) =
        c.retryLoop lib signers k m' rest := by
  rcases hr : c.retry lib m signers reply with ⟨m', r⟩
  by_cases h : r = .error .retry
  · subst h
    cases n with
    | zero => exact .inl ⟨(m', .error .retry), fun _ => by simp [retryLoop, hr]⟩
    | succ k => exact .inr ⟨k, m', rfl, fun _ => by simp [retryLoop, hr]⟩
  · refine .inl ⟨(m', r), fun _ => ?_⟩
    rcases r with (_ | _ | _ | _ | _ | _ | _ | _) | _ <;> cases n <;> simp_all [retryLoop]

theorem retryLoop_take (c : Client) (lib : UpdateLib) (signers : List Signer) (n : Nat)
    (m : Mutation) (replies : List (Except Error UpdateEntryResponse)) :
    c.retryLoop lib signers n m replies = c.retryLoop lib signers n m (replies.take (n + 1)) ∧
      (n + 1 ≤ replies.length → (c.retryLoop lib signers n m replies).isSome) := by
  induction replies generalizing n m with
  | nil => simp [retryLoop]
  | cons reply replies ih =>
    rw [List.take_succ_cons]
    rcases retryLoop_cons c lib signers n m reply with ⟨r, hr⟩ | ⟨k, m', rfl, hk⟩
    · simp [hr]
    · rw [hk, hk]
      obtain ⟨h₁, h₂⟩ := ih k m'
      exact ⟨h₁, fun h => h₂ (by simp at h; omega)⟩

/-- `Update` sends at most `max RetryCount 0 + 1` update requests, and returns once the server
has answered that many. -/
theorem update_take_replies (c : Client) (lib : UpdateLib) (appID userID : String) (profileData : Bytes)
    (signers : List Signer) (authorizedKeys : List PublicKey)
    (getReply : Except Error GetEntryResponse) (updateReplies : List (Except Error UpdateEntryResponse)) :
    c.update lib appID userID profileData signers authorizedKeys getReply updateReplies =
        c.update lib appID userID profileData signers authorizedKeys getReply
          (updateReplies.take (c.retryCount.val.toNat + 1)) ∧
      (c.retryCount.val.toNat + 1 ≤ updateReplies.length →
        (c.update lib appID userID profileData signers authorizedKeys getReply updateReplies).isSome) := by
  rcases getReply with e | getResp
  · simp [update]
  cases hv : c.kt.verifyGetEntryResponse c.domainID appID userID c.trusted getResp
  · simp [update, hv]
  cases hm : lib.newMutation c.domainID appID userID profileData authorizedKeys getResp.vrfProof
      getResp.leafValue with
  | error e => simp [update, hv, hm]
  | ok m =>
    obtain ⟨h₁, h₂⟩ := retryLoop_take c lib signers c.retryCount.val.toNat m updateReplies
    simp only [update, hv, hm]
    exact ⟨by rw [← h₁], fun h => by simpa using h₂ h⟩

section Retry

variable (c : Client) (lib : UpdateLib) (m : Mutation) (signers : List Signer)

/-- Everything one `Retry` can do: fail with an error other than `ErrRetry`, leaving the signed
mutation; or send the signed request, get back a proof that verifies against the trusted root,
check its leaf, and re-point the signed mutation at that leaf. -/
theorem retry_cases (reply : Except Error UpdateEntryResponse) :
    ((c.retry lib m signers reply).1 = (m.sign signers).1 ∧
      ∃ e, (c.retry lib m signers reply).2 = .error e ∧ e ≠ .retry) ∨
    ∃ req resp equal, (m.serializeAndSign lib.entry signers c.trusted.treeSize).2 = .ok req ∧
      reply = .ok resp ∧
      c.kt.verifyGetEntryResponse c.domainID req.appId req.userId c.trusted resp.proof = .ok () ∧
      lib.check (m.sign signers).1 resp.proof.leafValue = .ok equal ∧
      (m.sign signers).1.setPrevious lib.entry resp.proof.leafValue false = .ok (c.retry lib m signers reply).1 ∧
      (c.retry lib m signers reply).2 = if equal then .ok () else .error .retry := by
  have hfst := @Mutation.serializeAndSign_fst lib.entry m signers c.trusted.treeSize
  unfold retry
  rcases hs : m.serializeAndSign lib.entry signers c.trusted.treeSize with ⟨m', _ | req⟩ <;>
    simp only [hs] at hfst ⊢ <;> subst hfst
  · exact .inl ⟨rfl, _, rfl, nofun⟩
  rcases reply with e | resp
  · exact .inl ⟨rfl, _, rfl, nofun⟩
  dsimp only
  cases hv : c.kt.verifyGetEntryResponse c.domainID req.appId req.userId c.trusted resp.proof
  · exact .inl ⟨rfl, _, rfl, nofun⟩
  cases hc : lib.check (m.sign signers).1 resp.proof.leafValue with
  | error => exact .inl ⟨rfl, _, rfl, nofun⟩
  | ok equal =>
    cases hp : (m.sign signers).1.setPrevious lib.entry resp.proof.leafValue false with
    | error => exact .inl ⟨rfl, _, rfl, nofun⟩
    | ok m'' => exact .inr ⟨req, resp, equal, rfl, rfl, hv, hc, hp, rfl⟩


theorem retry_content (reply : Except Error UpdateEntryResponse) :
    (c.retry lib m signers reply).1.content = m.content := by
  rcases retry_cases c lib m signers reply with ⟨h, -⟩ | ⟨req, resp, equal, -, -, -, -, hp, -⟩
  · rw [h, Mutation.sign_content]
  · rw [Mutation.setPrevious_content hp, Mutation.sign_content]

/-- When `Retry` says `nil` or `ErrRetry`, it sent the signed request and got back a proof that
verifies against the trusted root, and it re-pointed the mutation at that proof's leaf: the
mutation holds the decoded leaf as its previous entry, names it by its object hash, and asks
for what it asked before. It says `nil` exactly when `m.Check` found the leaf equal. -/
theorem retry_repoints (reply : Except Error UpdateEntryResponse)
    (h : (c.retry lib m signers reply).2 = .ok () ∨ (c.retry lib m signers reply).2 = .error .retry) :
    ∃ req resp equal, (m.serializeAndSign lib.entry signers c.trusted.treeSize).2 = .ok req ∧
      reply = .ok resp ∧
      c.kt.verifyGetEntryResponse c.domainID req.appId req.userId c.trusted resp.proof = .ok () ∧
      previousOf lib.entry resp.proof.leafValue =
        .ok ((c.retry lib m signers reply).1.prevEntry, (c.retry lib m signers reply).1.entry.previous) ∧
      (c.retry lib m signers reply).1.content = m.content ∧
      lib.check (m.sign signers).1 resp.proof.leafValue = .ok equal ∧
      ((c.retry lib m signers reply).2 = .ok () ↔ equal = true) := by
  rcases retry_cases c lib m signers reply with ⟨-, e, he, hne⟩ | ⟨req, resp, equal, hs, hr, hv, hc, hp, hres⟩
  · rw [he] at h
    simp at h
    exact absurd h hne
  · refine ⟨req, resp, equal, hs, hr, hv, ?_, ?_, hc, ?_⟩
    · rw [← @Mutation.setPrevious_stores lib.entry (m.sign signers).1 _ false, hp]
      rfl
    · exact retry_content c lib m signers reply
    · rw [hres]
      cases equal <;> simp

theorem retry_repoints_sample :
    ((new "example.com" Verifier.sample).retry UpdateLib.sample Mutation.sampleCommitted
      [Signer.sample] (.ok ⟨sampleReply⟩)).2 = .error .retry ∧
    previousOf EntryLib.sample [1, 7, 8] =
      .ok (((new "example.com" Verifier.sample).retry UpdateLib.sample Mutation.sampleCommitted
        [Signer.sample] (.ok ⟨sampleReply⟩)).1.prevEntry,
        ((new "example.com" Verifier.sample).retry UpdateLib.sample Mutation.sampleCommitted
          [Signer.sample] (.ok ⟨sampleReply⟩)).1.entry.previous) := by
  obtain ⟨req, resp, equal, -, hr, -, hp, -⟩ := retry_repoints (new "example.com" Verifier.sample)
    UpdateLib.sample Mutation.sampleCommitted [Signer.sample] (.ok ⟨sampleReply⟩) (.inr rfl)
  cases hr
  exact ⟨rfl, hp⟩

theorem retryLoop_step (n : Nat) (reply : Except Error UpdateEntryResponse)
    (rest : List (Except Error UpdateEntryResponse)) :
    (∃ k m', n = k + 1 ∧ c.retry lib m signers reply = (m', .error .retry) ∧
        c.retryLoop lib signers n m (reply :: rest) = c.retryLoop lib signers k m' rest ∧
        c.retryAttempts lib signers n m (reply :: rest) = m :: c.retryAttempts lib signers k m' rest) ∨
      (c.retryLoop lib signers n m (reply :: rest) = some (c.retry lib m signers reply) ∧
        c.retryAttempts lib signers n m (reply :: rest) = [m]) := by
  by_cases h : ∃ k m', n = k + 1 ∧ c.retry lib m signers reply = (m', .error .retry)
  · obtain ⟨k, m', rfl, h⟩ := h
    exact .inl ⟨k, m', rfl, h, retryLoop.eq_2 _ _ _ _ _ _ _ _ h, retryAttempts.eq_2 _ _ _ _ _ _ _ _ h⟩
  · have hn : ∀ m' k, c.retry lib m signers reply = (m', .error .retry) → n = k + 1 → False :=
      fun m' k hr hk => h ⟨k, m', hk, hr⟩
    exact .inr ⟨retryLoop.eq_3 _ _ _ _ _ _ _ hn, retryAttempts.eq_3 _ _ _ _ _ _ _ hn⟩


/-- The loop hands `Retry` the first mutation first, then, on each `ErrRetry`, what that `Retry`
left after its reply; every attempt asks for what the first asked for. -/
theorem retryAttempts_chain (n : Nat) (replies : List (Except Error UpdateEntryResponse)) :
    (c.retryAttempts lib signers n m replies).head? = replies.head?.map (fun _ => m) ∧
    ((c.retryAttempts lib signers n m replies).zip replies).Chain'
      (fun p q => c.retry lib p.1 signers p.2 = (q.1, .error .retry)) ∧
    ∀ a ∈ c.retryAttempts lib signers n m replies, a.content = m.content := by
  induction replies generalizing n m with
  | nil => simp [retryAttempts]
  | cons reply rest ih =>
    rcases retryLoop_step c lib m signers n reply rest with ⟨k, m', -, hr, -, ha⟩ | ⟨-, ha⟩
    · obtain ⟨hhead, hchain, hcontent⟩ := ih m' k
      have hm' : m'.content = m.content := by rw [← retry_content c lib m signers reply, hr]
      refine ⟨by rw [ha]; rfl, ?_, ?_⟩
      · rw [ha, List.zip_cons_cons, List.chain'_cons']
        refine ⟨fun q hq => ?_, hchain⟩
        -- the next attempt, if any, is `m'`, paired with the next reply
        cases rest with
        | nil => simp at hq
        | cons r rest =>
          cases hatt : c.retryAttempts lib signers k m' (r :: rest) with
          | nil => simp [hatt] at hhead
          | cons a as =>
            simp only [hatt, List.head?_cons, Option.map_some', Option.some.injEq, List.zip_cons_cons,
              Option.mem_def] at hhead hq
            subst hhead hq
            exact hr
      · rw [ha]
        rintro a (_ | ⟨_, ha⟩)
        · rfl
        · rw [hcontent a ha, hm']
    · rw [ha]
      exact ⟨rfl, List.chain'_singleton _, by simp⟩


theorem retryLoop_eq_last (n : Nat) (replies : List (Except Error UpdateEntryResponse))
    {r : Mutation × Except Error Unit} (h : c.retryLoop lib signers n m replies = some r) :
    ∃ a reply, (c.retryAttempts lib signers n m replies).getLast? = some a ∧ reply ∈ replies ∧
      c.retry lib a signers reply = r := by
  induction replies generalizing n m with
  | nil => simp [retryLoop] at h
  | cons reply rest ih =>
    rcases retryLoop_step c lib m signers n reply rest with ⟨k, m', -, -, hl, ha⟩ | ⟨hl, ha⟩
    · obtain ⟨a, reply', hlast, hmem, hr⟩ := ih m' k (hl ▸ h)
      refine ⟨a, reply', ?_, .tail _ hmem, hr⟩
      rw [ha, List.getLast?_cons, hlast]
      rfl
    · rw [hl, Option.some.injEq] at h
      exact ⟨m, reply, by rw [ha]; rfl, .head _, h⟩

/-- Every request the retry loop of `Update` sends asks for what the first mutation asked for:
the same domain, identity, index, authorized keys and commitment, with the same opening; so if
the first mutation's opening opened its commitment, the commitment check accepts the opening of
every request. Each attempt after the first is what the previous `Retry` left on `ErrRetry`
after its reply, and the loop returns what `Retry` returned on the last attempt. -/
theorem retryAttempts_requests_open (n : Nat) (replies : List (Except Error UpdateEntryResponse)) :
    ((c.retryAttempts lib signers n m replies).zip replies).Chain'
      (fun p q => c.retry lib p.1 signers p.2 = (q.1, .error .retry)) ∧
    (∀ r, c.retryLoop lib signers n m replies = some r →
      ∃ a reply, (c.retryAttempts lib signers n m replies).getLast? = some a ∧ reply ∈ replies ∧
        c.retry lib a signers reply = r) ∧
    ∀ a ∈ c.retryAttempts lib signers n m replies, ∀ req,
      (a.serializeAndSign lib.entry signers c.trusted.treeSize).2 = .ok req →
      req.domainId = m.domainID ∧ req.userId = m.userID ∧ req.appId = m.appID ∧
      req.entryUpdate.mutation.index = m.entry.index ∧
      req.entryUpdate.mutation.authorizedKeys = m.entry.authorizedKeys ∧
      req.entryUpdate.mutation.commitment = m.entry.commitment ∧
      (Mutation.Opens lib.entry m →
        commitmentsVerify lib.entry.commit req.userId req.appId req.entryUpdate.mutation.commitment
          req.entryUpdate.committed.data req.entryUpdate.committed.key = .ok ()) := by
  obtain ⟨-, hchain, hcontent⟩ := retryAttempts_chain c lib m signers n replies
  refine ⟨hchain, fun r h => retryLoop_eq_last c lib m signers n replies h, fun a ha req hreq => ?_⟩
  obtain ⟨sigs, -, -, -, rfl⟩ := Mutation.serializeAndSign_eq_ok hreq
  have hc := hcontent a ha
  simp only [Mutation.content, Prod.mk.injEq] at hc
  obtain ⟨h₁, h₂, h₃, -, -, h₆, h₇, h₈⟩ := hc
  exact ⟨h₁, h₃, h₂, h₆, h₈, h₇, fun hm => commitmentsVerify_eq_ok.mpr (Mutation.opens_of_content (hcontent a ha) hm)⟩

theorem retryAttempts_requests_open_sample :
    ((new "example.com" Verifier.sample).retryAttempts UpdateLib.sample [Signer.sample] 1
      Mutation.sampleCommitted [.ok ⟨sampleReply⟩, .ok ⟨sampleReply⟩]).length = 2 ∧
    ∀ a ∈ (new "example.com" Verifier.sample).retryAttempts UpdateLib.sample [Signer.sample] 1
      Mutation.sampleCommitted [.ok ⟨sampleReply⟩, .ok ⟨sampleReply⟩], ∀ req,
      (a.serializeAndSign EntryLib.sample [Signer.sample] 0).2 = .ok req →
      commitmentsVerify EntryLib.sample.commit req.userId req.appId req.entryUpdate.mutation.commitment
        req.entryUpdate.committed.data req.entryUpdate.committed.key = .ok () :=
  ⟨rfl, fun a ha req hreq => ((retryAttempts_requests_open (new "example.com" Verifier.sample)
    UpdateLib.sample Mutation.sampleCommitted [Signer.sample] 1 _).2.2 a ha req hreq).2.2.2.2.2.2
    (Mutation.step_setCommitment_opens [7] [8])⟩

end Retry

end Client

/-- A call on the client, with the server's replies to it. -/
inductive Call where
  | getEntry (userID appID : String) (reply : Except Error GetEntryResponse)
  | listHistory (userID appID : String) (start end_ : Int64)
      (replies : List (Except Error ListEntryHistoryResponse))
  | update (appID userID : String) (profileData : Bytes) (signers : List Signer)
      (authorizedKeys : List PublicKey) (getReply : Except Error GetEntryResponse)
      (updateReplies : List (Except Error UpdateEntryResponse))
  | retry (m : Mutation) (signers : List Signer) (reply : Except Error UpdateEntryResponse)

inductive Outcome where
  | getEntry (r : Except Error (Bytes × Option SignedMapRoot))
  | listHistory (r : HistoryRun)
  | update (r : Option (Option Mutation × Except Error Unit))
  | retry (r : Mutation × Except Error Unit)

namespace Client

/-- One call: the client after it, which the methods leave as it was, and what it returns. -/
def call (c : Client) (lib : UpdateLib) : Call → Client × Outcome
  | .getEntry userID appID reply => (c, .getEntry (c.getEntry userID appID reply))
  | .listHistory userID appID start end_ replies =>
    (c, .listHistory (c.listHistory userID appID start end_ replies))
  | .update appID userID profileData signers keys getReply replies =>
    (c, .update (c.update lib appID userID profileData signers keys getReply replies))
  | .retry m signers reply => (c, .retry (c.retry lib m signers reply))

def run (c : Client) (lib : UpdateLib) : List Call → Client × List Outcome
  | [] => (c, [])
  | k :: ks =>
    let (c', o) := c.call lib k
    let (c'', os) := c'.run lib ks
    (c'', o :: os)

/-- A fresh client looks up twice and the server answers from two forked logs, roots of size
5 with hashes `[3]` and `[4]`: both answers are accepted and the client still trusts the zero
root. Trusting the first root would have rejected the second. -/
theorem run_accepts_forked_roots (lib : UpdateLib) :
    let c := new "example.com" Verifier.sample
    let root₁ : SignedLogRoot :=
      { timestampNanos := 0, rootHash := [3], treeSize := 5, signature := none, logId := 0 }
    let r₂ := { sampleReply with logRoot := some { root₁ with rootHash := [4] } }
    let out := c.run lib [.getEntry "alice" "app" (.ok { sampleReply with logRoot := some root₁ }),
      .getEntry "alice" "app" (.ok r₂)]
    (∃ o₁ o₂, out.2 = [.getEntry (.ok o₁), .getEntry (.ok o₂)]) ∧ out.1.trusted = default ∧
      ∃ e, { c with trusted := root₁ }.getEntry "alice" "app" (.ok r₂) = .error e :=
  ⟨⟨_, _, rfl⟩, rfl, _, rfl⟩

end Client
end KeyTransparency.Grpcc

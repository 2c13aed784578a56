import KeyTransparency.Crypto

/-! `entry.Mutation`, the builder of an entry update: each method reads and writes the
builder, and `SerializeAndSign` signs the entry, authorizes it and dry-runs it. -/
namespace KeyTransparency.Mutator

/-- `signatures.Signer`: a key id and a signature over an entry. -/
structure Signer where
  keyID : String
  sign : Entry → Except Error DigitallySigned

/-- The functions `mutation.go` calls from the `entry`, `objecthash` and `commitments`
packages, taken abstractly. -/
structure EntryLib where
  fromLeafValue : Bytes → Except Error (Option Entry)
  /-- `objecthash.ObjectHash(objecthash.CommonJSONify(e))`, failing as either call fails. -/
  objectHash : Option Entry → Except Error Bytes
  nilHash : Bytes
  commit : String → String → Bytes → Bytes → Bytes
  /-- `verifyKeys(prevAuthz, authz, entry, sigs)`. -/
  verifyKeys : List PublicKey → List PublicKey → Entry → List (String × DigitallySigned) → Except Error Unit
  /-- `New().Mutate(oldEntry, mutation)`. -/
  mutate : Option Entry → Entry → Except Error Entry

/-- `e.GetAuthorizedKeys()` on a possibly nil entry. -/
def authorizedKeysOf (e : Option Entry) : List PublicKey := (e.map (·.authorizedKeys)).getD []

structure Mutation where
  domainID : String
  appID : String
  userID : String
  data : Bytes
  nonce : Bytes
  prevEntry : Option Entry
  entry : Entry

/-- `sigs[keyID] = sig`: replace the signature stored under `keyID`, or add it. -/
def insertSig (sigs : List (String × DigitallySigned)) (keyID : String) (sig : DigitallySigned) :
    List (String × DigitallySigned) :=
  if sigs.any (·.1 = keyID) then sigs.map fun p => if p.1 = keyID then (keyID, sig) else p
  else sigs ++ [(keyID, sig)]

theorem mem_insertSig {sigs : List (String × DigitallySigned)} {k : String} {sig : DigitallySigned}
    {p : String × DigitallySigned} (h : p ∈ insertSig sigs k sig) : p ∈ sigs ∨ p = (k, sig) := by
  unfold insertSig at h
  split_ifs at h
  · obtain ⟨q, hq, rfl⟩ := List.mem_map.mp h
    split_ifs
    · exact .inr rfl
    · exact .inl hq
  · simpa using h

namespace Mutation

/-- `NewMutation`: an entry at `index` whose previous is the hash of the nil object. -/
def new (lib : EntryLib) (index : Bytes) (domainID appID userID : String) : Mutation :=
  { domainID, appID, userID, data := [], nonce := [], prevEntry := none
    entry := { (default : Entry) with index, previous := lib.nilHash } }

/-- `SetPrevious`: decode and hash the old leaf, keep it as the previous entry and name its
hash; with `copyPrevious`, take over its keys and commitment. A failure changes nothing. -/
def setPrevious (lib : EntryLib) (m : Mutation) (oldValue : Bytes) (copyPrevious : Bool) :
    Except Error Mutation := do
  let prevEntry ← lib.fromLeafValue oldValue
  let hash ← lib.objectHash prevEntry
  let entry := { m.entry with previous := hash }
  return { m with
    prevEntry
    entry := if copyPrevious then
      { entry with authorizedKeys := authorizedKeysOf prevEntry, commitment := commitmentOf prevEntry }
      else entry }

/-- `SetCommitment`: commit to `data` under the nonce `GenCommitmentKey` returns. -/
def setCommitment (lib : EntryLib) (m : Mutation) (data : Bytes)
    (genCommitmentKey : Except Error Bytes) : Except Error Mutation := do
  let nonce ← genCommitmentKey
  return { m with data, nonce, entry := { m.entry with commitment := lib.commit m.userID m.appID data nonce } }

/-- `ReplaceAuthorizedKeys`: at least one key is required. -/
def replaceAuthorizedKeys (m : Mutation) (pubkeys : List PublicKey) : Except Error Mutation :=
  if pubkeys.length < 1 then .error .missingKey
  else .ok { m with entry := { m.entry with authorizedKeys := pubkeys } }

/-- `sign`: clear the signatures, sign the cleared entry with each signer, then store them.
A signer's failure leaves the signatures cleared. -/
def sign (m : Mutation) (signers : List Signer) : Mutation × Except Error Entry :=
  let m := { m with entry := { m.entry with signatures := [] } }
  match signers.foldlM (fun sigs s => do return insertSig sigs s.keyID (← s.sign m.entry)) [] with
  | .error e => (m, .error e)
  | .ok sigs => ({ m with entry := { m.entry with signatures := sigs } },
      .ok { m.entry with signatures := sigs })

/-- `SerializeAndSign`: sign, authorize against the previous entry's keys, dry-run the
mutation, and build the request with the opening `(m.nonce, m.data)`. -/
def serializeAndSign (lib : EntryLib) (m : Mutation) (signers : List Signer)
    (trustedTreeSize : Int64) : Mutation × Except Error UpdateEntryRequest :=
  match m.sign signers with
  | (m, .error e) => (m, .error e)
  | (m, .ok mutation) =>
    match lib.verifyKeys (authorizedKeysOf m.prevEntry) m.entry.authorizedKeys
        { mutation with signatures := [] } mutation.signatures with
    | .error e => (m, .error (.wrap "verifyKeys" e))
    | .ok () =>
      match lib.mutate m.prevEntry mutation with
      | .error e => (m, .error (.wrap "presign mutation check" e))
      | .ok _ => (m, .ok
          { domainId := m.domainID, userId := m.userID, appId := m.appID
            firstTreeSize := trustedTreeSize
            entryUpdate := { mutation, committed := { key := m.nonce, data := m.data } } })

end Mutation

/-- A call on the builder, with what it reads from outside: the nonce source's result, the signers. -/
inductive Op where
  | setPrevious (oldValue : Bytes) (copyPrevious : Bool)
  | setCommitment (data : Bytes) (genCommitmentKey : Except Error Bytes)
  | replaceAuthorizedKeys (pubkeys : List PublicKey)
  | serializeAndSign (signers : List Signer) (trustedTreeSize : Int64)

def Op.copiesPrevious : Op → Bool
  | .setPrevious _ true => true
  | _ => false

/-- What a successful `SetPrevious(oldValue, _)` stores: the decoded old entry and its
object hash. Whether the call succeeds depends on `oldValue` alone. -/
def previousOf (lib : EntryLib) (oldValue : Bytes) : Except Error (Option Entry × Bytes) := do
  let prevEntry ← lib.fromLeafValue oldValue
  let hash ← lib.objectHash prevEntry
  return (prevEntry, hash)

def Op.storedPrevious (lib : EntryLib) : Op → Option (Option Entry × Bytes)
  | .setPrevious v _ => (previousOf lib v).toOption
  | _ => none

/-- The previous entry and hash the last successful `SetPrevious` of `ops` stored. -/
def lastPrevious (lib : EntryLib) (ops : List Op) : Option (Option Entry × Bytes) :=
  (ops.filterMap (Op.storedPrevious lib)).getLast?

theorem lastPrevious_cons (lib : EntryLib) (op : Op) (ops : List Op) :
    lastPrevious lib (op :: ops) = (lastPrevious lib ops).or (op.storedPrevious lib) := by
  unfold lastPrevious
  cases h : op.storedPrevious lib with
  | none => simp [List.filterMap_cons, h, Option.or_none]
  | some p =>
    simp only [List.filterMap_cons, h, List.getLast?_cons]
    cases (ops.filterMap (Op.storedPrevious lib)).getLast? <;> rfl

namespace Mutation

/-- The builder after one call: a failing `Set…` call leaves it unchanged, while
`SerializeAndSign` leaves whatever `sign` wrote. -/
def step (lib : EntryLib) (m : Mutation) : Op → Mutation
  | .setPrevious v c => match m.setPrevious lib v c with | .ok m' => m' | .error _ => m
  | .setCommitment d g => match m.setCommitment lib d g with | .ok m' => m' | .error _ => m
  | .replaceAuthorizedKeys ks => match m.replaceAuthorizedKeys ks with | .ok m' => m' | .error _ => m
  | .serializeAndSign ss t => (m.serializeAndSign lib ss t).1

def run (lib : EntryLib) (m : Mutation) (ops : List Op) : Mutation := ops.foldl (step lib) m

/-- The builder's opening `(m.nonce, m.data)` opens the entry's commitment. -/
def Opens (lib : EntryLib) (m : Mutation) : Prop :=
  m.entry.commitment = lib.commit m.userID m.appID m.data m.nonce

/-- What the opening and the commitment depend on: the identity, the opening, the commitment. -/
def commitFields (m : Mutation) : String × String × Bytes × Bytes × Bytes :=
  (m.userID, m.appID, m.data, m.nonce, m.entry.commitment)

/-- What the builder asks the server for, apart from the back pointer and the signatures:
the domain, the identity, the index, the commitment with its opening, the authorized keys. -/
def content (m : Mutation) :
    String × String × String × Bytes × Bytes × Bytes × Bytes × List PublicKey :=
  (m.domainID, m.appID, m.userID, m.data, m.nonce, m.entry.index, m.entry.commitment,
    m.entry.authorizedKeys)

theorem opens_of_content {lib : EntryLib} {m m' : Mutation} (h : m'.content = m.content)
    (hm : Opens lib m) : Opens lib m' := by
  simp only [content, Prod.mk.injEq] at h
  obtain ⟨-, h₂, h₃, h₄, h₅, -, h₇, -⟩ := h
  simp only [Opens, h₂, h₃, h₄, h₅, h₇]
  exact hm

theorem opens_of_commitFields {lib : EntryLib} {m m' : Mutation} (h : m'.commitFields = m.commitFields)
    (hm : Opens lib m) : Opens lib m' := by
  simp only [commitFields, Prod.mk.injEq] at h
  obtain ⟨h₁, h₂, h₃, h₄, h₅⟩ := h
  simp only [Opens, h₁, h₂, h₃, h₄, h₅]
  exact hm

variable {lib : EntryLib} {m : Mutation}

/-- `sign` touches only the signatures, and returns the entry it stored. -/
theorem sign_spec (signers : List Signer) :
    (m.sign signers).1.commitFields = m.commitFields ∧ (m.sign signers).1.prevEntry = m.prevEntry ∧
      (m.sign signers).1.entry.authorizedKeys = m.entry.authorizedKeys ∧
      ∀ e, (m.sign signers).2 = .ok e → e = (m.sign signers).1.entry := by
  unfold sign
  dsimp only
  split <;> simp [commitFields]

theorem sign_fst (m : Mutation) (signers : List Signer) :
    ∃ sigs, (m.sign signers).1 = { m with entry := { m.entry with signatures := sigs } } := by
  unfold sign
  dsimp only
  split <;> exact ⟨_, rfl⟩

theorem sign_content (signers : List Signer) : (m.sign signers).1.content = m.content := by
  obtain ⟨sigs, h⟩ := sign_fst m signers
  rw [h]
  rfl

theorem serializeAndSign_fst (m : Mutation) (signers : List Signer) (size : Int64) :
    (m.serializeAndSign lib signers size).1 = (m.sign signers).1 := by
  unfold serializeAndSign
  rcases m.sign signers with ⟨m', _ | e⟩
  · rfl
  · dsimp only
    split
    · rfl
    · split <;> rfl

theorem signFold_mem {e : Entry} {signers : List Signer} {acc sigs : List (String × DigitallySigned)}
    (h : signers.foldlM (fun sigs s => do return insertSig sigs s.keyID (← s.sign e)) acc = .ok sigs)
    {p : String × DigitallySigned} (hp : p ∈ sigs) :
    p ∈ acc ∨ ∃ s ∈ signers, s.keyID = p.1 ∧ s.sign e = .ok p.2 := by
  induction signers generalizing acc with
  | nil => cases h; exact .inl hp
  | cons s ss ih =>
    obtain ⟨acc', hs, h⟩ := Except.bind_eq_ok.mp h
    obtain ⟨sig, hsig, hs⟩ := Except.bind_eq_ok.mp hs
    cases hs
    rcases ih h with hp | ⟨s', hs', hk, hsg⟩
    · rcases mem_insertSig hp with hp | rfl
      · exact .inl hp
      · exact .inr ⟨s, .head _, rfl, hsig⟩
    · exact .inr ⟨s', .tail _ hs', hk, hsg⟩

/-- Each signature `sign` returns under key `k` was made by a signer of key id `k` over the
returned entry with its signatures cleared, whatever signatures the builder held before. -/
theorem sign_signatures {signers : List Signer} {e : Entry} (h : (m.sign signers).2 = .ok e) :
    ∀ k sig, (k, sig) ∈ e.signatures →
      ∃ s ∈ signers, s.keyID = k ∧ s.sign { e with signatures := [] } = .ok sig := by
  unfold sign at h
  dsimp only at h
  split at h
  · cases h
  · rename_i sigs hf
    cases h
    intro k sig hk
    simpa using signFold_mem hf hk

/-- A request `SerializeAndSign` returns carries the entry `sign` returned, which `verifyKeys`
accepted against the previous entry's keys and the dry run applied to the previous entry,
with the builder's identity and its opening `(m.nonce, m.data)`. -/
theorem serializeAndSign_eq_ok {signers : List Signer} {size : Int64} {req : UpdateEntryRequest}
    (h : (m.serializeAndSign lib signers size).2 = .ok req) :
    ∃ sigs, (m.sign signers).2 = .ok { m.entry with signatures := sigs } ∧
      lib.verifyKeys (authorizedKeysOf m.prevEntry) m.entry.authorizedKeys
        { m.entry with signatures := [] } sigs = .ok () ∧
      (∃ e, lib.mutate m.prevEntry { m.entry with signatures := sigs } = .ok e) ∧
      req = { domainId := m.domainID, userId := m.userID, appId := m.appID, firstTreeSize := size
              entryUpdate := { mutation := { m.entry with signatures := sigs }
                               committed := { key := m.nonce, data := m.data } } } := by
  obtain ⟨sigs, hm⟩ := sign_fst m signers
  have he := (@sign_spec m signers).2.2.2
  unfold serializeAndSign at h
  rcases hs : m.sign signers with ⟨m', _ | e⟩ <;> simp only [hs] at h hm he
  · cases h
  · subst hm
    obtain rfl := he e rfl
    split at h
    · cases h
    · split at h
      · cases h
      · cases h
        exact ⟨sigs, rfl, ‹_›, ⟨_, ‹_›⟩, rfl⟩

/-- `SerializeAndSign` touches only the signatures, and its request carries the entry's
commitment, the builder's identity and the opening `(m.nonce, m.data)`. -/
theorem serializeAndSign_spec (signers : List Signer) (size : Int64) :
    (m.serializeAndSign lib signers size).1.commitFields = m.commitFields ∧
      ∀ req, (m.serializeAndSign lib signers size).2 = .ok req →
        req.userId = m.userID ∧ req.appId = m.appID ∧
        req.entryUpdate.mutation.commitment = m.entry.commitment ∧
        req.entryUpdate.committed = { key := m.nonce, data := m.data } := by
  refine ⟨by rw [serializeAndSign_fst]; exact (sign_spec signers).1, fun req h => ?_⟩
  obtain ⟨sigs, -, -, -, rfl⟩ := serializeAndSign_eq_ok h
  exact ⟨rfl, rfl, rfl, rfl⟩

theorem step_setCommitment_opens (data nonce : Bytes) :
    Opens lib (step lib m (.setCommitment data (.ok nonce))) := by
  simp [step, setCommitment, Opens, bind, Except.bind, pure, Except.pure]

theorem setPrevious_eq_ok {v : Bytes} {c : Bool} {m' : Mutation} (h : m.setPrevious lib v c = .ok m') :
    ∃ prev hash, lib.fromLeafValue v = .ok prev ∧ lib.objectHash prev = .ok hash ∧
      m' = { m with
        prevEntry := prev
        entry := if c then
            { m.entry with
              previous := hash, authorizedKeys := authorizedKeysOf prev, commitment := commitmentOf prev }
          else { m.entry with previous := hash } } := by
  obtain ⟨prev, hp, h⟩ := Except.bind_eq_ok.mp h
  obtain ⟨hash, hh, h⟩ := Except.bind_eq_ok.mp h
  exact ⟨prev, hash, hp, hh, by cases c <;> exact (Except.ok.inj h).symm⟩

theorem setCommitment_eq_ok {data : Bytes} {g : Except Error Bytes} {m' : Mutation}
    (h : m.setCommitment lib data g = .ok m') :
    ∃ nonce, g = .ok nonce ∧ m' = { m with
      data, nonce, entry := { m.entry with commitment := lib.commit m.userID m.appID data nonce } } := by
  obtain ⟨nonce, hn, h⟩ := Except.bind_eq_ok.mp h
  exact ⟨nonce, hn, (Except.ok.inj h).symm⟩

theorem setPrevious_stores (v : Bytes) (c : Bool) :
    (m.setPrevious lib v c).map (fun m' => (m'.prevEntry, m'.entry.previous)) = previousOf lib v := by
  unfold setPrevious previousOf
  cases lib.fromLeafValue v <;> [rfl; skip]
  dsimp only [bind, Except.bind]
  cases lib.objectHash _ <;> [rfl; cases c <;> rfl]

theorem setPrevious_content {v : Bytes} {m' : Mutation} (h : m.setPrevious lib v false = .ok m') :
    m'.content = m.content := by
  obtain ⟨-, -, -, -, rfl⟩ := setPrevious_eq_ok h
  rfl

/-- Every call but `SetPrevious(_, true)` keeps the opening opening the commitment. -/
theorem step_opens {op : Op} (h : op.copiesPrevious = false) (hm : Opens lib m) :
    Opens lib (step lib m op) := by
  cases op with
  | setPrevious v c =>
    cases c
    · simp only [step]
      split
      · obtain ⟨-, -, -, -, rfl⟩ := setPrevious_eq_ok ‹_›
        exact hm
      · exact hm
    · simp [Op.copiesPrevious] at h
  | setCommitment d g =>
    simp only [step]
    split
    · obtain ⟨nonce, -, rfl⟩ := setCommitment_eq_ok ‹_›
      rfl
    · exact hm
  | replaceAuthorizedKeys ks =>
    simp only [step, replaceAuthorizedKeys]
    split_ifs <;> exact hm
  | serializeAndSign ss t => exact opens_of_commitFields (serializeAndSign_spec ss t).1 hm

theorem run_opens {ops : List Op} (h : ∀ op ∈ ops, op.copiesPrevious = false) (hm : Opens lib m) :
    Opens lib (run lib m ops) := by
  induction ops generalizing m with
  | nil => exact hm
  | cons op ops ih => exact ih (fun o ho => h o (.tail _ ho)) (step_opens (h op (.head _)) hm)

/-- After a successful `SetCommitment` that no `SetPrevious(_, true)` follows, every request
`SerializeAndSign` returns carries an opening the verifier's commitment check accepts. -/
theorem serializeAndSign_opening_verifies {pre post : List Op} {data nonce : Bytes}
    {signers : List Signer} {size : Int64} {req : UpdateEntryRequest}
    (hpost : ∀ op ∈ post, op.copiesPrevious = false)
    (h : ((run lib m (pre ++ .setCommitment data (.ok nonce) :: post)).serializeAndSign lib
      signers size).2 = .ok req) :
    commitmentsVerify lib.commit req.userId req.appId req.entryUpdate.mutation.commitment
      req.entryUpdate.committed.data req.entryUpdate.committed.key = .ok () := by
  have hopen : Opens lib (run lib m (pre ++ .setCommitment data (.ok nonce) :: post)) := by
    rw [run, List.foldl_append, List.foldl_cons]
    exact run_opens hpost (step_setCommitment_opens data nonce)
  obtain ⟨hu, ha, hc, hk⟩ := (serializeAndSign_spec signers size).2 req h
  rw [commitmentsVerify_eq_ok, hu, ha, hc, hk]
  exact hopen

/-- A call stores its own previous entry and hash if it is a successful `SetPrevious`;
otherwise the builder's are kept. -/
theorem step_previous (m : Mutation) (op : Op) :
    ((step lib m op).prevEntry, (step lib m op).entry.previous) =
      (op.storedPrevious lib).getD (m.prevEntry, m.entry.previous) := by
  cases op with
  | setPrevious v c =>
    rw [Op.storedPrevious, ← setPrevious_stores v c]
    simp only [step]
    cases m.setPrevious lib v c <;> rfl
  | setCommitment d g =>
    simp only [step]
    split
    · obtain ⟨nonce, -, rfl⟩ := setCommitment_eq_ok ‹_›
      rfl
    · rfl
  | replaceAuthorizedKeys ks =>
    simp only [step, replaceAuthorizedKeys]
    split_ifs <;> rfl
  | serializeAndSign ss t =>
    obtain ⟨sigs, hs⟩ := sign_fst m ss
    simp only [step, serializeAndSign_fst, hs]
    rfl

theorem run_previous (m : Mutation) (ops : List Op) :
    ((run lib m ops).prevEntry, (run lib m ops).entry.previous) =
      (lastPrevious lib ops).getD (m.prevEntry, m.entry.previous) := by
  induction ops generalizing m with
  | nil => rfl
  | cons op ops ih =>
    rw [lastPrevious_cons]
    calc ((run lib (step lib m op) ops).prevEntry, (run lib (step lib m op) ops).entry.previous)
        = (lastPrevious lib ops).getD ((step lib m op).prevEntry, (step lib m op).entry.previous) := ih _
      _ = ((lastPrevious lib ops).or (op.storedPrevious lib)).getD (m.prevEntry, m.entry.previous) := by
        rw [step_previous]; cases lastPrevious lib ops <;> rfl

/-- From `NewMutation`, after any calls, failing ones included, the builder holds the entry
the last successful `SetPrevious` decoded and names it by that call's hash, or holds none and
names the nil hash while none has succeeded; a request `SerializeAndSign` returns carries that
hash, and was authorized and dry-run against that same entry. -/
theorem run_new_names_previous (index : Bytes) (domainID appID userID : String) (ops : List Op) :
    ((run lib (new lib index domainID appID userID) ops).prevEntry,
        (run lib (new lib index domainID appID userID) ops).entry.previous) =
      (lastPrevious lib ops).getD (none, lib.nilHash) ∧
    ∀ signers size req,
      ((run lib (new lib index domainID appID userID) ops).serializeAndSign lib signers size).2 = .ok req →
      req.entryUpdate.mutation.previous = ((lastPrevious lib ops).getD (none, lib.nilHash)).2 ∧
      lib.verifyKeys (authorizedKeysOf ((lastPrevious lib ops).getD (none, lib.nilHash)).1)
        req.entryUpdate.mutation.authorizedKeys { req.entryUpdate.mutation with signatures := [] }
        req.entryUpdate.mutation.signatures = .ok () ∧
      ∃ e, lib.mutate ((lastPrevious lib ops).getD (none, lib.nilHash)).1 req.entryUpdate.mutation = .ok e := by
  have hrun : ((run lib (new lib index domainID appID userID) ops).prevEntry,
      (run lib (new lib index domainID appID userID) ops).entry.previous) =
      (lastPrevious lib ops).getD (none, lib.nilHash) := run_previous _ ops
  refine ⟨hrun, fun signers size req h => ?_⟩
  obtain ⟨sigs, -, hv, he, rfl⟩ := serializeAndSign_eq_ok h
  rw [← hrun]
  exact ⟨rfl, hv, he⟩

end Mutation

/-- An executable library: the sample verifier's codec and commitment, the commitment as
the object hash, and an authorization and a dry run that accept. -/
def EntryLib.sample : EntryLib where
  fromLeafValue := Verifier.sample.fromLeafValue
  objectHash e := .ok (commitmentOf e)
  nilHash := []
  commit := Verifier.sample.commit
  verifyKeys _ _ _ _ := .ok ()
  mutate _ e := .ok e

def Signer.sample : Signer := ⟨"k1", fun e => .ok ⟨e.commitment⟩⟩

/-- A builder that commits to `[7]` under the nonce `[8]`. -/
def Mutation.sampleCommitted : Mutation :=
  (Mutation.new EntryLib.sample [9] "example.com" "app" "alice").run EntryLib.sample
    [.setCommitment [7] (.ok [8])]

theorem serializeAndSign_opening_verifies_sample :
    let m := (Mutation.new EntryLib.sample [9] "example.com" "app" "alice").run EntryLib.sample
      ([.setPrevious [1, 7, 8] true] ++ .setCommitment [7] (.ok [8]) :: [.replaceAuthorizedKeys [⟨[2]⟩]])
    ∃ req, (m.serializeAndSign EntryLib.sample [Signer.sample] 0).2 = .ok req ∧
      commitmentsVerify EntryLib.sample.commit req.userId req.appId req.entryUpdate.mutation.commitment
        req.entryUpdate.committed.data req.entryUpdate.committed.key = .ok () :=
  ⟨_, rfl, @Mutation.serializeAndSign_opening_verifies EntryLib.sample
    (Mutation.new EntryLib.sample [9] "example.com" "app" "alice") [.setPrevious [1, 7, 8] true]
    [.replaceAuthorizedKeys [⟨[2]⟩]] [7] [8] [Signer.sample] 0 _ (by simp [Op.copiesPrevious]) rfl⟩

/-- A key rotation that copies the old entry: the request carries the opening `(nil, nil)`,
which does not open the copied commitment. -/
theorem serializeAndSign_rotation_opening_fails :
    let m := (Mutation.new EntryLib.sample [9] "example.com" "app" "alice").run EntryLib.sample
      [.setPrevious [1, 7, 8] true, .replaceAuthorizedKeys [⟨[2]⟩]]
    ∃ req, (m.serializeAndSign EntryLib.sample [Signer.sample] 0).2 = .ok req ∧
      commitmentsVerify EntryLib.sample.commit req.userId req.appId req.entryUpdate.mutation.commitment
        req.entryUpdate.committed.data req.entryUpdate.committed.key ≠ .ok () :=
  ⟨_, rfl, fun h => absurd (commitmentsVerify_eq_ok.mp h) (by decide)⟩

namespace Mutation

variable {lib : EntryLib}

/-- Each signature `sign` returns under key `k` was made by a signer of key id `k` over the
returned entry with its signatures cleared; so, for signers whose signatures `verify` accepts,
each signature of the request `SerializeAndSign` returns verifies over that cleared entry,
which is the object it hands `verifyKeys`. -/
theorem serializeAndSign_signatures_verify (m : Mutation) (signers : List Signer)
    (verify : String → Entry → DigitallySigned → Prop)
    (hsound : ∀ s ∈ signers, ∀ e sig, s.sign e = .ok sig → verify s.keyID e sig) :
    (∀ e, (m.sign signers).2 = .ok e → ∀ k sig, (k, sig) ∈ e.signatures →
      ∃ s ∈ signers, s.keyID = k ∧ s.sign { e with signatures := [] } = .ok sig) ∧
    ∀ size req, (m.serializeAndSign lib signers size).2 = .ok req →
      (∀ k sig, (k, sig) ∈ req.entryUpdate.mutation.signatures →
        verify k { req.entryUpdate.mutation with signatures := [] } sig) ∧
      lib.verifyKeys (authorizedKeysOf m.prevEntry) m.entry.authorizedKeys
        { req.entryUpdate.mutation with signatures := [] } req.entryUpdate.mutation.signatures = .ok () := by
  refine ⟨fun e he => sign_signatures he, fun size req h => ?_⟩
  obtain ⟨sigs, hs, hv, -, rfl⟩ := serializeAndSign_eq_ok h
  refine ⟨fun k sig hk => ?_, hv⟩
  obtain ⟨s, hs, rfl, hsg⟩ := sign_signatures hs k sig hk
  exact hsound s hs _ _ hsg

end Mutation

/-- A resubmission: the builder still holds the signature of an earlier `SerializeAndSign`,
and two signers of one key id sign it again. -/
theorem serializeAndSign_signatures_verify_resubmit :
    ∃ req, (((Mutation.new EntryLib.sample [9] "example.com" "app" "alice").run EntryLib.sample
        [.setCommitment [7] (.ok [8]), .serializeAndSign [Signer.sample] 0]).serializeAndSign
        EntryLib.sample [Signer.sample, Signer.sample] 0).2 = .ok req ∧
      ∀ k sig, (k, sig) ∈ req.entryUpdate.mutation.signatures → sig = ⟨req.entryUpdate.mutation.commitment⟩ :=
  ⟨_, rfl, ((@Mutation.serializeAndSign_signatures_verify EntryLib.sample
    ((Mutation.new EntryLib.sample [9] "example.com" "app" "alice").run EntryLib.sample
      [.setCommitment [7] (.ok [8]), .serializeAndSign [Signer.sample] 0])
    [Signer.sample, Signer.sample] (fun _ e sig => sig = ⟨e.commitment⟩)
    (by simp [Signer.sample])).2 0 _ rfl).1⟩

end KeyTransparency.Mutator
